import SessionTelemetry.Number.Numeral
import SessionTelemetry.Number.Shortest
import SessionTelemetry.Text.Quoted
import SessionTelemetry.Value.Basic

/-!
# Values as text

`Value.display` is the text of a value; a text is shown as it is. Inside a container, and where a
quoted form is asked for, `Value.quote` puts texts in quotes.

Not every value can be written: an integer may have too many digits, and a foreign object may fail
to give its text. `Value.obstacle?` is the first fault on the way through a value, and `Value.shown`
is its text unless there is one.
-/

namespace SessionTelemetry

namespace Value

def intText (n : Int) : List Char :=
  if n < 0 then '-' :: Nat.toDigits 10 n.natAbs else Nat.toDigits 10 n.natAbs

def commaSeparated : List (List Char) → List Char
  | [] => []
  | [only] => only
  | first :: rest => first ++ ',' :: ' ' :: commaSeparated rest

def commonText : Value → List Char
  | null => "None".toList
  | bool b => if b then "True".toList else "False".toList
  | int n => intText n
  | float x => x.render .plain
  | bytes bs => Text.quotedBytes bs
  | object name => "<object ".toList ++ name.toList ++ ['>']
  | registry name => "<registry ".toList ++ name.toList ++ ['>']
  | meter name => "<meter ".toList ++ name.toList ++ ['>']
  | foreign _ _ (.ok quoted) => quoted.toList
  | _ => []

mutual

def quoteChars : Value → List Char
  | text s => Text.quoted s.toList
  | list items => '[' :: commaSeparated (quoteItems items) ++ [']']
  | tuple items =>
    match quoteItems items with
    | [only] => '(' :: only ++ [',', ')']
    | shown => '(' :: commaSeparated shown ++ [')']
  | dict entries => '{' :: commaSeparated (quoteEntries entries) ++ ['}']
  | v => commonText v

def quoteItems : List Value → List (List Char)
  | [] => []
  | v :: rest => quoteChars v :: quoteItems rest

def quoteEntries : List (Value × Value) → List (List Char)
  | [] => []
  | (k, v) :: rest => (quoteChars k ++ ':' :: ' ' :: quoteChars v) :: quoteEntries rest

end

def quote (v : Value) : String := String.ofList (quoteChars v)

def display : Value → String
  | text s => s
  | foreign _ (.ok s) _ => s
  | v => quote v

def intObstacle? (n : Int) : Option Fault :=
  if Numeral.maxDigits < (Nat.toDigits 10 n.natAbs).length then some .unwritableInteger else none

mutual

def quoteObstacle? : Value → Option Fault
  | int n => intObstacle? n
  | foreign _ _ quoted => Fault.of? quoted
  | list items => itemsObstacle? items
  | tuple items => itemsObstacle? items
  | dict entries => entriesObstacle? entries
  | _ => none

def itemsObstacle? : List Value → Option Fault
  | [] => none
  | v :: rest => (quoteObstacle? v).or (itemsObstacle? rest)

def entriesObstacle? : List (Value × Value) → Option Fault
  | [] => none
  | (k, v) :: rest => ((quoteObstacle? k).or (quoteObstacle? v)).or (entriesObstacle? rest)

end

/-- What keeps the text of a value from being written. -/
def obstacle? : Value → Option Fault
  | foreign _ said _ => Fault.of? said
  | v => quoteObstacle? v

def shown (v : Value) : Except Fault String := Fault.guarding v.obstacle? v.display

def quoted (v : Value) : Except Fault String := Fault.guarding v.quoteObstacle? v.quote

end Value

end SessionTelemetry
