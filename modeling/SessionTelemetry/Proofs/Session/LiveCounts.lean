import SessionTelemetry.Proofs.Session.LiveTree
import SessionTelemetry.Session.Objects

/-!
# Laws of live counts

A count reads the lists of its bridge and of the live entries below it, and the flags of the entries
of these lists; whatever else the session model holds does not matter to it
(`countBelow_congr`). So it depends on each list by a sum over the entries, and the counts of
conferences and of channels share their laws (`live_counts`).
-/

namespace SessionTelemetry

namespace SessionGraph

variable {g g' : SessionGraph} {count count' : Value → Except Fault Nat}
  {path pre post : List Attribute} {a b : Attribute} {v w entry bridge : Value}
  {entries rest xs ys zs : List Value} {n : Nat} {p : List Nat} {o : String} {flag : Value}

/-! ### What a count reads -/

inductive Reads (g : SessionGraph) : List Attribute → Value → Value → Attribute → Prop where
  | list {a : Attribute} {path : List Attribute} {v : Value} : Reads g (a :: path) v v a
  | flag {a : Attribute} {path : List Attribute} {v entry : Value} {entries : List Value}
      (hlists : g.Lists v a entries) (hentry : entry ∈ entries) :
      Reads g (a :: path) v entry .isExpired
  | deeper {a b : Attribute} {path : List Attribute} {v w entry : Value} {entries : List Value}
      (hlists : g.Lists v a entries) (hentry : entry ∈ entries) (halive : g.Alive entry true)
      (h : Reads g path entry w b) : Reads g (a :: path) v w b

/-- But for flags, only a value that is started from and live entries are read. -/
theorem Reads.live (h : g.Reads path v w b) :
    b = .isExpired ∨ b ∈ path ∧ (w = v ∨ g.Alive w true) := by
  induction h with
  | list => exact .inr ⟨List.mem_cons_self, .inl rfl⟩
  | flag => exact .inl rfl
  | deeper _ _ halive _ ih =>
    refine ih.imp_right fun ⟨hb, hw⟩ => ⟨List.mem_cons_of_mem _ hb, .inr ?_⟩
    obtain rfl | hw := hw
    · exact halive
    · exact hw

theorem share_congr (hlive : g'.isLive entry = g.isLive entry)
    (hcount : g.isLive entry = .ok true → count' entry = count entry) :
    g'.share count' entry = g.share count entry := by
  rw [share, share, hlive]
  cases hentry : g.isLive entry with
  | error fault => rfl
  | ok live =>
    cases live with
    | false => rfl
    | true => exact hcount hentry

theorem sumLive_congr (hlive : ∀ entry ∈ entries, g'.isLive entry = g.isLive entry)
    (hcount : ∀ entry ∈ entries, g.isLive entry = .ok true → count' entry = count entry) :
    g'.sumLive count' entries = g.sumLive count entries := by
  induction entries with
  | nil => rfl
  | cons entry rest ih =>
    rw [List.forall_mem_cons] at hlive hcount
    rw [sumLive_cons, sumLive_cons, ih hlive.2 hcount.2, share_congr hlive.1 hcount.1]

/-- Session models that agree on what a count reads of one of them have the same count. -/
theorem countBelow_congr (h : ∀ w b, g.Reads path v w b → g'.get w b = g.get w b) :
    g'.countBelow path v = g.countBelow path v := by
  induction path generalizing v with
  | nil => rfl
  | cons a path ih =>
    have hlist : g'.entries v a = g.entries v a := by
      rw [SessionGraph.entries, SessionGraph.entries, h v a .list]
    rw [countBelow, countBelow, hlist]
    cases hentries : g.entries v a with
    | error fault => rfl
    | ok entries =>
      rw [entries_eq_ok_iff] at hentries
      refine sumLive_congr (fun entry hentry => ?_)
        fun entry hentry halive => ih fun w b hread => ?_
      · rw [isLive, isLive, h entry .isExpired (.flag hentries hentry)]
      · exact h w b (.deeper hentries hentry (isLive_eq_ok_iff.mp halive) hread)

/-! ### A list is replaced -/

def relist (g : SessionGraph) (o : String) (a : Attribute) (entries : List Value) : SessionGraph :=
  g.set o a (.ok (.list entries))

theorem lists_relist : (g.relist o a entries).Lists (.object o) a entries := by
  cases entries with
  | nil => exact .unset get_set_self rfl
  | cons entry rest => exact .set get_set_self rfl rfl

theorem isLive_relist (ha : a ≠ .isExpired) :
    (g.relist o a entries).isLive entry = g.isLive entry := by
  rw [isLive, isLive, relist, get_set_of_ne fun _ => Ne.symm ha]

theorem countBelow_relist_of_notMem (ha : a ≠ .isExpired) (hpath : a ∉ path) :
    (g.relist o a entries).countBelow path v = g.countBelow path v := by
  refine countBelow_congr fun w b hread => get_set_of_ne fun _ => ?_
  rintro rfl
  obtain rfl | ⟨hb, -⟩ := hread.live
  · exact ha rfl
  · exact hpath hb

/-- A list that is replaced by its own entries makes no difference. -/
theorem countBelow_relist_self (ha : a ≠ .isExpired) (h : g.Lists (.object o) a entries) :
    (g.relist o a entries).countBelow path v = g.countBelow path v := by
  induction path generalizing v with
  | nil => rfl
  | cons b path ih =>
    have hlist : (g.relist o a entries).entries v b = g.entries v b := by
      by_cases hread : v = .object o ∧ b = a
      · obtain ⟨rfl, rfl⟩ := hread
        rw [entries_eq_ok_iff.mpr lists_relist, entries_eq_ok_iff.mpr h]
      · rw [SessionGraph.entries, SessionGraph.entries, relist,
          get_set_of_ne fun hv hb => hread ⟨hv, hb⟩]
    rw [countBelow, countBelow, hlist]
    cases g.entries v b with
    | error fault => rfl
    | ok listed => exact sumLive_congr (fun _ _ => isLive_relist ha) fun _ _ _ => ih

/-- A property of counts that holds of constants, of sums and of every sum over a list holds of the
count below a value as a function of any one list. -/
theorem countBelow_relist {P : (List Value → Except Fault Nat) → Prop}
    (fixed : ∀ r, P fun _ => r)
    (sum : ∀ f f', P f → P f' → P fun zs => do
      let n ← f zs
      return n + (← f' zs))
    (list : ∀ count, P (g.sumLive count)) (ha : a ≠ .isExpired) (hpath : path.Nodup) :
    P fun zs => (g.relist o a zs).countBelow path v := by
  induction path generalizing v with
  | nil => exact fixed (.ok 1)
  | cons b path ih =>
    obtain ⟨hb, hpath⟩ := List.nodup_cons.mp hpath
    by_cases hread : v = .object o ∧ b = a
    · obtain ⟨rfl, rfl⟩ := hread
      -- below the list the count does not depend on it
      have hlist : (fun zs => (g.relist o b zs).countBelow (b :: path) (.object o)) =
          g.sumLive (g.countBelow path) := by
        funext zs
        rw [countBelow, entries_eq_ok_iff.mpr lists_relist]
        exact sumLive_congr (fun _ _ => isLive_relist ha)
          fun _ _ _ => countBelow_relist_of_notMem ha hb
      rw [hlist]
      exact list _
    · have hentries (zs : List Value) : (g.relist o a zs).entries v b = g.entries v b := by
        rw [SessionGraph.entries, SessionGraph.entries, relist,
          get_set_of_ne fun hv hb => hread ⟨hv, hb⟩]
      simp only [countBelow, hentries]
      cases g.entries v b with
      | error fault => exact fixed (.error fault)
      | ok entries =>
        show P fun zs => (g.relist o a zs).sumLive ((g.relist o a zs).countBelow path) entries
        induction entries with
        | nil => exact fixed (.ok 0)
        | cons entry rest ih' =>
          simp only [sumLive_cons, share, isLive_relist ha]
          refine sum _ _ ?_ ih'
          cases g.isLive entry with
          | error fault => exact fixed (.error fault)
          | ok live =>
            cases live with
            | false => exact fixed (.ok 0)
            | true => exact ih hpath

theorem exists_of_sumLive_append (h : g.sumLive count (xs ++ ys) = .ok n) :
    ∃ n₁ n₂, g.sumLive count xs = .ok n₁ ∧ g.sumLive count ys = .ok n₂ ∧ n = n₁ + n₂ := by
  induction xs generalizing n with
  | nil => exact ⟨0, n, rfl, h, (Nat.zero_add n).symm⟩
  | cons entry xs ih =>
    rw [List.cons_append, sumLive_cons, add_eq_ok_iff] at h
    obtain ⟨here, below, hhere, hbelow, rfl⟩ := h
    obtain ⟨n₁, n₂, hxs, hys, rfl⟩ := ih hbelow
    refine ⟨here + n₁, n₂, ?_, hys, (Nat.add_assoc here n₁ n₂).symm⟩
    rw [sumLive_cons, add_eq_ok_iff]
    exact ⟨here, n₁, hhere, hxs, rfl⟩

theorem sumLive_of_perm (hperm : xs.Perm ys) (h : g.sumLive count xs = .ok n) :
    g.sumLive count ys = .ok n := by
  induction hperm generalizing n with
  | nil => exact h
  | cons entry _ ih =>
    rw [sumLive_cons, add_eq_ok_iff] at h ⊢
    obtain ⟨here, below, hhere, hbelow, rfl⟩ := h
    exact ⟨here, below, hhere, ih hbelow, rfl⟩
  | swap first second rest =>
    rw [sumLive_cons, add_eq_ok_iff] at h ⊢
    obtain ⟨n₂, below, h₂, h, rfl⟩ := h
    rw [sumLive_cons, add_eq_ok_iff] at h
    obtain ⟨n₁, n, h₁, h, rfl⟩ := h
    refine ⟨n₁, n₂ + n, h₁, ?_, Nat.add_left_comm n₂ n₁ n⟩
    rw [sumLive_cons, add_eq_ok_iff]
    exact ⟨n₂, n, h₂, h, rfl⟩
  | trans _ _ ih ih' => exact ih' (ih h)

/-- Entries of two lists in one add to a count what they add each by themselves. -/
theorem countBelow_append (ha : a ≠ .isExpired) (hpath : path.Nodup)
    (h : (g.relist o a (xs ++ ys)).countBelow path v = .ok n) :
    ∃ n₀ n₁ n₂, (g.relist o a []).countBelow path v = .ok n₀ ∧
      (g.relist o a xs).countBelow path v = .ok (n₀ + n₁) ∧
      (g.relist o a ys).countBelow path v = .ok (n₀ + n₂) ∧ n = n₀ + n₁ + n₂ := by
  refine countBelow_relist (P := fun f => ∀ n, f (xs ++ ys) = .ok n → ∃ n₀ n₁ n₂, f [] = .ok n₀ ∧
    f xs = .ok (n₀ + n₁) ∧ f ys = .ok (n₀ + n₂) ∧ n = n₀ + n₁ + n₂) ?_ ?_ ?_ ha hpath n h
  · intro r n hr
    exact ⟨n, 0, 0, hr, hr, hr, rfl⟩
  · intro f f' hf hf' n hn
    obtain ⟨m, m', hm, hm', rfl⟩ := add_eq_ok_iff.mp hn
    obtain ⟨n₀, n₁, n₂, h₀, h₁, h₂, rfl⟩ := hf m hm
    obtain ⟨n₀', n₁', n₂', h₀', h₁', h₂', rfl⟩ := hf' m' hm'
    refine ⟨n₀ + n₀', n₁ + n₁', n₂ + n₂', add_eq_ok_iff.mpr ⟨_, _, h₀, h₀', rfl⟩,
      add_eq_ok_iff.mpr ⟨_, _, h₁, h₁', ?_⟩, add_eq_ok_iff.mpr ⟨_, _, h₂, h₂', ?_⟩, ?_⟩ <;> omega
  · intro count n hn
    obtain ⟨n₁, n₂, h₁, h₂, rfl⟩ := exists_of_sumLive_append hn
    refine ⟨0, n₁, n₂, rfl, ?_, ?_, ?_⟩
    · rw [Nat.zero_add, h₁]
    · rw [Nat.zero_add, h₂]
    · rw [Nat.zero_add]

/-- The order of a list makes no difference. -/
theorem countBelow_perm (ha : a ≠ .isExpired) (hpath : path.Nodup) (hperm : xs.Perm ys)
    (h : (g.relist o a xs).countBelow path v = .ok n) :
    (g.relist o a ys).countBelow path v = .ok n := by
  refine countBelow_relist (P := fun f => ∀ n, f xs = .ok n → f ys = .ok n) ?_ ?_ ?_ ha hpath n h
  · exact fun r n hr => hr
  · intro f f' hf hf' n hn
    obtain ⟨m, m', hm, hm', rfl⟩ := add_eq_ok_iff.mp hn
    exact add_eq_ok_iff.mpr ⟨m, m', hf m hm, hf' m' hm', rfl⟩
  · exact fun count n hn => sumLive_of_perm hperm hn

/-- The laws of a count of the live ends of a path below a bridge. -/
structure CountsLive (g : SessionGraph) (path : List Attribute) (bridge : Value)
    (count : SessionGraph → Except Fault Nat) : Prop where
  positions : ∃ n : Nat, count g = .ok n ∧ (g.positions path bridge).encard = n
  /-- What is counted without the entries of a list is nothing if it is the list of the bridge. -/
  append {o : String} {a : Attribute} {xs ys : List Value} (ha : a ≠ .isExpired)
    (h : g.Lists (.object o) a (xs ++ ys)) :
    ∃ n₀ n₁ n₂, count (g.relist o a []) = .ok n₀ ∧ count (g.relist o a xs) = .ok (n₀ + n₁) ∧
      count (g.relist o a ys) = .ok (n₀ + n₂) ∧ count g = .ok (n₀ + n₁ + n₂) ∧
      (bridge = .object o → a = .conferences → n₀ = 0)
  perm {o : String} {a : Attribute} {xs ys : List Value} (ha : a ≠ .isExpired)
    (h : g.Lists (.object o) a xs) (hperm : xs.Perm ys) : count (g.relist o a ys) = count g
  unread {g' : SessionGraph} (h : ∀ w a, g.Reads path bridge w a → g'.get w a = g.get w a) :
    count g' = count g
  /-- Of an entry that has expired, only the flag matters. -/
  idle {o : String} {a : Attribute} {outcome : Except Fault Value} (h : g.Alive (.object o) false)
    (hbridge : bridge ≠ .object o) (ha : a ≠ .isExpired) :
    count (g.set o a outcome) = count g

theorem countsLive (h : g.Readable (.conferences :: path) bridge)
    (hpath : (.conferences :: path).Nodup) :
    g.CountsLive (.conferences :: path) bridge
      fun g' => g'.countBelow (.conferences :: path) bridge where
  positions := by
    obtain ⟨n, hn⟩ := exists_countBelow h
    exact ⟨n, hn, (countBelow_eq_ok_iff.mp hn).2⟩
  append := by
    intro o a xs ys ha hlists
    obtain ⟨n, hn⟩ := exists_countBelow h
    rw [← countBelow_relist_self ha hlists] at hn
    obtain ⟨n₀, n₁, n₂, h₀, h₁, h₂, rfl⟩ := countBelow_append ha hpath hn
    rw [countBelow_relist_self ha hlists] at hn
    refine ⟨n₀, n₁, n₂, h₀, h₁, h₂, hn, ?_⟩
    rintro rfl rfl
    rw [countBelow, entries_eq_ok_iff.mpr lists_relist] at h₀
    exact (Except.ok.inj h₀).symm
  perm := by
    intro o a xs ys ha hlists hperm
    obtain ⟨n, hn⟩ := exists_countBelow h
    have hxs := (countBelow_relist_self ha hlists).trans hn
    exact (countBelow_perm ha hpath hperm hxs).trans hn.symm
  unread := countBelow_congr
  idle := by
    intro o a outcome hidle hbridge ha
    refine countBelow_congr fun w b hread => get_set_of_ne ?_
    rintro rfl rfl
    obtain hb | ⟨-, hw | hw⟩ := hread.live
    · exact ha hb
    · exact hbridge hw.symm
    · cases hidle.unique hw

/-- Of the conferences, an entry that expires takes itself, if it is one. -/
theorem encard_conferences_through (hpre : pre <+: channelPath) (hne : pre ≠ [])
    (h : g.Leads pre bridge p w) :
    (g.positions conferencePath bridge ∩ {r | p <+: r}).encard =
      ((if pre = conferencePath then 1 else 0 : Nat) : ENat) := by
  by_cases hconference : pre = conferencePath
  · subst hconference
    have hthrough : (g.positions conferencePath bridge ∩ {r | p <+: r}).encard =
        (g.positions [] w).encard := encard_positions_through h
    rw [hthrough, positions_nil, Set.encard_singleton, if_pos rfl]
    rfl
  · -- the entry is deeper than all conferences
    have hlength : 1 < pre.length := by
      cases pre with
      | nil => exact absurd rfl hne
      | cons a pre =>
        obtain ⟨rfl, -⟩ := List.cons_prefix_cons.mp hpre
        cases pre with
        | nil => exact absurd rfl hconference
        | cons b pre => exact Nat.one_lt_succ_succ _
    have hempty : g.positions conferencePath bridge ∩ {r | p <+: r} = ∅ := by
      rw [Set.eq_empty_iff_forall_notMem]
      rintro r ⟨⟨u, hr⟩, hthrough⟩
      have hle : p.length ≤ r.length := List.IsPrefix.length_le hthrough
      rw [h.length_eq, hr.length_eq] at hle
      exact absurd hlength (Nat.not_lt.mpr hle)
    rw [hempty, Set.encard_empty, if_neg hconference]
    rfl

/-- A live entry that occurs once takes the live channels below it from their count when it expires,
and itself from the conferences, if it is one. -/
theorem liveCounts_expire (hreadable : g.Readable channelPath bridge) (hflag : flag.truthy = true)
    (hpath : channelPath = pre ++ post) (hne : pre ≠ []) (h : g.Leads pre bridge p (.object o))
    (honce : g.OccursOnce channelPath bridge o p) :
    ∃ below channels conferences, g.countBelow post (.object o) = .ok below ∧
      g.liveChannels bridge = .ok (channels + below) ∧
      (g.set o .isExpired (.ok flag)).liveChannels bridge = .ok channels ∧
      g.liveConferences bridge =
        .ok (conferences + if pre = conferencePath then 1 else 0) ∧
      (g.set o .isExpired (.ok flag)).liveConferences bridge = .ok conferences := by
  have hpre : pre <+: channelPath := ⟨post, hpath.symm⟩
  have hwhole : .isExpired ∉ channelPath := by decide
  have hconferences : conferencePath <+: channelPath := by decide
  obtain ⟨below, channels, hbelow, hchannels, hchannels'⟩ :=
    countBelow_expire hflag hwhole hpre hne List.prefix_rfl h honce hreadable
  obtain ⟨lost, conferences, hlost, hall, hall'⟩ :=
    countBelow_expire hflag hwhole hpre hne hconferences h honce
      (hreadable.start hconferences)
  rw [encard_conferences_through hpre hne h] at hlost
  obtain rfl := Nat.cast_injective hlost
  simp only [liveChannels_eq, liveConferences_eq]
  refine ⟨below, channels, conferences, ?_, hchannels, hchannels', hall, hall'⟩
  rw [hpath] at hreadable hbelow
  rw [encard_positions_through h] at hbelow
  exact countBelow_eq_ok_iff.mpr ⟨h.readable hreadable, hbelow⟩

/-- Where the live tree of a bridge can be read, its conferences and channels are counted by their
live positions, entry by entry, and nothing is read below entries that are not live. A live entry
that occurs once takes what is live below it with it when it expires. -/
theorem live_counts (h : g.Readable channelPath bridge) :
    g.CountsLive conferencePath bridge (fun g' => g'.liveConferences bridge) ∧
    g.CountsLive channelPath bridge (fun g' => g'.liveChannels bridge) ∧
    ∀ (o : String) (flag : Value) (pre post : List Attribute) (p : List Nat),
      flag.truthy = true → channelPath = pre ++ post → pre ≠ [] →
      g.Leads pre bridge p (.object o) → g.OccursOnce channelPath bridge o p →
      ∃ below channels conferences, g.countBelow post (.object o) = .ok below ∧
        g.liveChannels bridge = .ok (channels + below) ∧
        (g.set o .isExpired (.ok flag)).liveChannels bridge = .ok channels ∧
        g.liveConferences bridge =
          .ok (conferences + if pre = conferencePath then 1 else 0) ∧
        (g.set o .isExpired (.ok flag)).liveConferences bridge = .ok conferences :=
  ⟨countsLive (h.start (by decide)) (by decide), countsLive h (by decide),
    fun _ _ _ _ _ hflag hpath hne hleads honce =>
      liveCounts_expire h hflag hpath hne hleads honce⟩

def mixedTree : SessionGraph := .ofObjects [
  ("bridge", [(.conferences, .ok (.tuple [.null, .object "room"]))]),
  ("room", [(.isExpired, .ok (.int 0)),
    (.contents, .ok (.list [.object "data", .object "audio"]))]),
  ("data", [(.isExpired, .ok (.text "yes"))]),
  ("audio", [(.isExpired, .ok .null), (.channels, .ok (.list [.object "a", .object "b"]))]),
  ("a", [(.isExpired, .ok (.bool true))]),
  ("b", [(.isExpired, .ok (.bool false))])]

theorem occursOnce_mixedTree :
    mixedTree.OccursOnce channelPath (.object "bridge") "room" [1] := by
  have hbridge : mixedTree.Lists (.object "bridge") .conferences [.null, .object "room"] :=
    .set rfl rfl rfl
  have hroom : mixedTree.Lists (.object "room") .contents [.object "data", .object "audio"] :=
    .set rfl rfl rfl
  have haudio : mixedTree.Lists (.object "audio") .channels [.object "a", .object "b"] :=
    .set rfl rfl rfl
  have hdata : mixedTree.Alive (.object "data") false := isLive_eq_ok_iff.mp rfl
  -- no content and no channel is the conference
  have hchannels (pre q) (hpre : pre <+: [.channels]) :
      ¬ mixedTree.Leads pre (.object "audio") q (.object "room") := by
    intro hleads
    rcases pre with _ | ⟨a, pre⟩
    · simpa using (leads_nil_iff.mp hleads).2
    · obtain ⟨rfl, htail⟩ := List.cons_prefix_cons.mp hpre
      obtain rfl := List.prefix_nil.mp htail
      obtain ⟨i, entry, q, rfl, hentry, -, hleads⟩ := (leads_cons_iff haudio).mp hleads
      rw [(leads_nil_iff.mp hleads).2] at hentry
      simpa using List.mem_of_getElem? hentry
  have hcontents (pre q) (hpre : pre <+: [.contents, .channels]) (hne : pre ≠ []) :
      ¬ mixedTree.Leads pre (.object "room") q (.object "room") := by
    intro hleads
    obtain _ | ⟨a, pre⟩ := pre
    · exact hne rfl
    obtain ⟨rfl, htail⟩ := List.cons_prefix_cons.mp hpre
    obtain ⟨i, entry, q, rfl, hentry, halive, hleads⟩ := (leads_cons_iff hroom).mp hleads
    rcases List.mem_pair.mp (List.mem_of_getElem? hentry) with rfl | rfl
    · cases halive.unique hdata
    · exact hchannels pre q htail hleads
  intro pre q hne hpre hleads
  obtain _ | ⟨a, pre⟩ := pre
  · exact absurd rfl hne
  obtain ⟨rfl, htail⟩ := List.cons_prefix_cons.mp hpre
  obtain ⟨i, entry, q, rfl, hentry, halive, hleads⟩ := (leads_cons_iff hbridge).mp hleads
  rcases i with _ | _ | i
  · cases hentry
    cases halive.unique .absent
  · cases hentry
    cases pre with
    | nil => rw [(leads_nil_iff.mp hleads).1]
    | cons b pre => exact absurd hleads (hcontents _ q htail (List.cons_ne_nil b pre))
  · cases hentry

theorem live_counts_mixedTree :
    mixedTree.Readable channelPath (.object "bridge") ∧
      (mixedTree.positions channelPath (.object "bridge")).encard = 1 ∧
      (mixedTree.set "data" .channels (.error .absentMember)).liveChannels (.object "bridge") =
        .ok 1 ∧
      (mixedTree.set "room" .isExpired (.ok (.int 1))).liveChannels (.object "bridge") = .ok 0 := by
  have hcount : mixedTree.liveChannels (.object "bridge") = .ok 1 := rfl
  have hreadable : mixedTree.Readable channelPath (.object "bridge") :=
    (countBelow_eq_ok_iff.mp ((mixedTree.liveChannels_eq _).symm.trans hcount)).1
  have hleads : mixedTree.Leads conferencePath (.object "bridge") [1] (.object "room") :=
    .down (.set rfl rfl rfl) rfl (isLive_eq_ok_iff.mp rfl) .here
  obtain ⟨-, hchannels, hexpire⟩ := live_counts hreadable
  obtain ⟨n, hn, hcard⟩ := hchannels.positions
  cases hcount.symm.trans hn
  obtain ⟨below, channels, -, hbelow, hall, hexpired, -⟩ :=
    hexpire "room" (.int 1) _ [.contents, .channels] [1] rfl rfl (by decide) hleads
      occursOnce_mixedTree
  cases hbelow.symm.trans (show _ = .ok 1 from rfl)
  cases hcount.symm.trans hall
  have hdata : mixedTree.Alive (.object "data") false := isLive_eq_ok_iff.mp rfl
  have hunread : (mixedTree.set "data" .channels (.error .absentMember)).liveChannels
      (.object "bridge") = mixedTree.liveChannels (.object "bridge") :=
    hchannels.idle hdata (by simp) nofun
  exact ⟨hreadable, hcard, hunread.trans hcount, hexpired⟩

end SessionGraph

end SessionTelemetry
