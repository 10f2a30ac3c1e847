import SessionTelemetry.Fault

/-!
# Log records

A record carries its text, or the fault that kept the text from being put together, and the fault
that it reports, if any.
-/

namespace SessionTelemetry

structure Record where
  logger : String
  level : Int
  text : Except Fault String
  fault : Option Fault := none

namespace Record

def debugLevel : Int := 10
def infoLevel : Int := 20
def warningLevel : Int := 30
def errorLevel : Int := 40

def debug (logger text : String) : Record := ⟨logger, debugLevel, .ok text, none⟩

def info (logger text : String) : Record := ⟨logger, infoLevel, .ok text, none⟩

def error (logger text : String) (fault : Option Fault) : Record :=
  ⟨logger, errorLevel, .ok text, fault⟩

end Record

end SessionTelemetry
