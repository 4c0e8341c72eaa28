import Mathlib.Data.Set.Card
import WindowHost.Proofs.Transparency

/-!
# What a cache keeps

A history of a cache is a list of accesses and of frame ends (`Act`). `lastUse?` reads from it the
list that a label was used with last and the number of frames that have ended since. An entry has
only a mark for that, yet the mark is enough (`trace_after`): what was used in this frame or in the
one before is in the cache, with the place of the list that was used last. So it is known which
labels are in the cache, and when an access has to prepare its list (`kept_and_prepared`).
-/

namespace WindowHost.Label

variable {H : Type}

/-! ## Entries by label -/

namespace Cache

/-- Every label has one entry at most. -/
def Distinct (c : Cache H) : Prop := (c.entries.map (·.1)).Nodup

theorem contains_iff {c : Cache H} {label : String} :
    c.contains label = true ↔ label ∈ c.entries.map (·.1) := by
  rw [contains, get?, Option.isSome_map, List.find?_isSome]
  simp

/-- Replacing an entry keeps the labels. -/
theorem map_fst_replace (c : Cache H) (label : String) (entry : Entry H) :
    (c.entries.map fun e => if e.1 == label then (label, entry) else e).map (·.1) =
      c.entries.map (·.1) := by
  rw [List.map_map]
  refine List.map_congr_left fun e _ => ?_
  by_cases he : e.1 = label <;> simp [he]

theorem get?_put (c : Cache H) (label : String) (entry : Entry H) (other : String) :
    (c.put label entry).get? other = if other = label then some entry else c.get? other := by
  unfold put
  by_cases hold : c.contains label = true
  · have hlabel : (fun e => e.1 == other) ∘
        (fun e : String × Entry H => if e.1 == label then (label, entry) else e) =
          fun e => e.1 == other := by
      funext e
      by_cases he : e.1 = label <;> simp [he]
    rw [if_pos hold, get?, List.find?_map, hlabel, Option.map_map]
    by_cases hother : other = label
    · obtain ⟨kept, hkept⟩ := Option.isSome_iff_exists.1 hold
      obtain ⟨e, hfind, -⟩ := Option.map_eq_some_iff.1 hkept
      have hkey : e.1 = label := by simpa using List.find?_some hfind
      rw [if_pos hother, hother, hfind]
      simp [hkey]
    · rw [if_neg hother, get?]
      refine Option.map_congr fun e he => ?_
      have hkey : e.1 = other := by simpa using List.find?_some he
      simp [hkey, hother]
  · rw [if_neg hold, get?, List.find?_append, get?]
    by_cases hother : other = label
    · rw [contains, get?, Option.isSome_map, Bool.not_eq_true, Option.isSome_eq_false_iff,
        Option.isNone_iff_eq_none] at hold
      simp [hother, hold]
    · simp [hother, Ne.symm hother]

theorem Distinct.put {c : Cache H} (h : c.Distinct) (label : String) (entry : Entry H) :
    (c.put label entry).Distinct := by
  unfold Distinct Cache.put
  by_cases hold : c.contains label = true
  · rw [if_pos hold, map_fst_replace]
    exact h
  · rw [if_neg hold, List.map_append]
    rw [contains_iff] at hold
    refine List.nodup_append.2 ⟨h, List.nodup_singleton _, fun key hkey key' hkey' => ?_⟩
    rintro rfl
    obtain rfl : key = label := List.mem_singleton.1 hkey'
    exact hold hkey

/-- Where keys differ, what is found under a key is found in a part of the list if it is there. -/
theorem find?_filter_of_nodup {α : Type} {key : α → String} {l : List α} (h : (l.map key).Nodup)
    (p : α → Bool) (k : String) :
    (l.filter p).find? (fun x => key x == k) = (l.find? fun x => key x == k).filter p := by
  induction l with
  | nil => rfl
  | cons x l ih =>
    obtain ⟨hnot, hrest⟩ := List.nodup_cons.1 h
    by_cases hkey : key x = k
    · -- nothing else has this key
      have hnone : l.find? (fun y => key y == k) = none :=
        List.find?_eq_none.2 fun y hy heq =>
          hnot (List.mem_map.2 ⟨y, hy, (beq_iff_eq.1 heq).trans hkey.symm⟩)
      rw [List.find?_cons_of_pos (by simpa using hkey)]
      by_cases hp : p x = true
      · rw [List.filter_cons_of_pos hp, List.find?_cons_of_pos (by simpa using hkey),
          Option.filter_some_pos hp]
      · rw [List.filter_cons_of_neg hp, ih hrest, hnone, Option.filter_some_neg (by simpa using hp)]
        rfl
    · rw [List.find?_cons_of_neg (by simpa using hkey), ← ih hrest]
      by_cases hp : p x = true
      · rw [List.filter_cons_of_pos hp, List.find?_cons_of_neg (by simpa using hkey)]
      · rw [List.filter_cons_of_neg hp]

/-- The boundary of a frame takes its mark from an entry, or takes the entry from the cache. -/
theorem Distinct.get?_endFrame {c : Cache H} (h : c.Distinct) (label : String) :
    c.endFrame.get? label =
      ((c.get? label).filter (·.touched)).map fun entry => { entry with touched := false } := by
  rw [get?, Cache.endFrame, List.find?_map, get?]
  show (((c.entries.filter (·.2.touched)).find? fun e => e.1 == label).map _).map _ = _
  rw [find?_filter_of_nodup h, Option.map_map, Option.filter_map, Option.map_map]
  rfl

theorem Distinct.endFrame {c : Cache H} (h : c.Distinct) : c.endFrame.Distinct := by
  unfold Distinct Cache.endFrame
  rw [List.map_map]
  exact h.sublist (List.filter_sublist.map _)

/-- As many labels are in the cache as it has entries. -/
theorem Distinct.encard {c : Cache H} (h : c.Distinct) :
    {label | c.contains label = true}.encard = c.size := by
  have hset : {label | c.contains label = true} =
      ((c.entries.map (·.1)).toFinset : Set String) := by
    ext label
    rw [Set.mem_ofPred_eq, contains_iff, List.coe_toFinset, Set.mem_ofPred_eq]
  rw [hset, Set.encard_coe_eq_coe_finsetCard, List.toFinset_card_of_nodup h, List.length_map, size]

/-- An access leaves an entry for its list, marked as used. -/
theorem exists_access_eq_put (prepare : List String → H) (label : String) (list : ItemList)
    (c : Cache H) : ∃ entry : Entry H, entry.list.address = list.address ∧ entry.touched = true ∧
      (c.access prepare label list).2 = c.put label entry := by
  rcases c.access_eq prepare label list with ⟨-, entry, -, haddress, haccess⟩ | haccess
  · exact ⟨{ entry with touched := true }, haddress, rfl, congrArg Prod.snd haccess⟩
  · exact ⟨⟨list, prepare list.items, true⟩, rfl, rfl, congrArg Prod.snd haccess⟩

end Cache

/-! ## Histories -/

/-- What happens to a cache. Every access comes with its own way of preparing. -/
inductive Act (H : Type) where
  | access (prepare : List String → H) (label : String) (list : ItemList)
  | endFrame

namespace Act

/-- Whether the act is an access under the label. -/
def uses (label : String) : Act H → Bool
  | .access _ other _ => other == label
  | .endFrame => false

def endsFrame : Act H → Bool
  | .access .. => false
  | .endFrame => true

def perform (c : Cache H) : Act H → Cache H
  | .access prepare label list => (c.access prepare label list).2
  | .endFrame => c.endFrame

/-- The list of the last use of a label and the number of frame ends since, after one more act. -/
def follow (label : String) (last? : Option (ItemList × Nat)) : Act H → Option (ItemList × Nat)
  | .access _ other list => if other = label then some (list, 0) else last?
  | .endFrame => last?.map fun (list, age) => (list, age + 1)

end Act

/-- A new cache after some acts. -/
def Cache.after (acts : List (Act H)) : Cache H := acts.foldl Act.perform {}

/-- The list with which a label was used last, and the number of frame ends since. -/
def lastUse? (label : String) (acts : List (Act H)) : Option (ItemList × Nat) :=
  acts.foldl (Act.follow label) none

theorem after_concat (acts : List (Act H)) (act : Act H) :
    Cache.after (acts ++ [act]) = act.perform (Cache.after acts) := List.foldl_concat ..

theorem lastUse?_concat (label : String) (acts : List (Act H)) (act : Act H) :
    lastUse? label (acts ++ [act]) = act.follow label (lastUse? label acts) := List.foldl_concat ..

/-- What an entry tells of the last use of its label: where the list stands, and whether the use was
in this frame. -/
def Entry.trace (entry : Entry H) : Nat × Bool := (entry.list.address, entry.touched)

/-- What there is to tell of a last use that is not two frame ends ago. -/
def recent? : ItemList × Nat → Option (Nat × Bool)
  | (list, 0) => some (list.address, true)
  | (list, 1) => some (list.address, false)
  | _ => none

/-- A frame end makes a use in this frame one in the frame before, and forgets an older one. -/
def aged? (trace : Nat × Bool) : Option (Nat × Bool) :=
  if trace.2 then some (trace.1, false) else none

theorem recent?_succ (list : ItemList) (age : Nat) :
    recent? (list, age + 1) = (recent? (list, age)).bind aged? := by
  rcases age with _ | _ | age <;> rfl

theorem trace_endFrame {c : Cache H} (hc : c.Distinct) (label : String) :
    (c.endFrame.get? label).map Entry.trace = ((c.get? label).map Entry.trace).bind aged? := by
  rw [hc.get?_endFrame]
  rcases c.get? label with _ | ⟨list, handles, _ | _⟩ <;> rfl

theorem distinct_after (acts : List (Act H)) : (Cache.after acts).Distinct := by
  induction acts using List.reverseRecOn with
  | nil => exact List.nodup_nil
  | append_singleton acts act ih =>
    rw [after_concat]
    cases act with
    | access prepare label list =>
      obtain ⟨entry, -, -, hput⟩ := (Cache.after acts).exists_access_eq_put prepare label list
      rw [Act.perform, hput]
      exact ih.put label entry
    | endFrame => exact ih.endFrame

/-- One more act changes what the entry of a label tells as it changes the last use. -/
theorem trace_perform {c : Cache H} (hc : c.Distinct) {label : String}
    {last? : Option (ItemList × Nat)} (h : (c.get? label).map Entry.trace = last?.bind recent?)
    (act : Act H) :
    ((act.perform c).get? label).map Entry.trace = (act.follow label last?).bind recent? := by
  cases act with
  | access prepare other list =>
    obtain ⟨entry, haddress, htouched, hput⟩ := c.exists_access_eq_put prepare other list
    rw [Act.perform, hput, Cache.get?_put, Act.follow]
    by_cases hlabel : label = other
    · rw [if_pos hlabel, if_pos hlabel.symm, Option.map_some, Entry.trace, haddress, htouched]
      rfl
    · rw [if_neg hlabel, if_neg (Ne.symm hlabel), h]
  | endFrame =>
    rw [Act.perform, trace_endFrame hc, h, Act.follow, Option.bind_assoc, Option.bind_map]
    exact congrArg last?.bind (funext fun (list, age) => (recent?_succ list age).symm)

/-- After any history the cache has an entry for a label exactly if the label was used since the
frame before the last one began, and the entry tells where the list of the last use stands. -/
theorem trace_after (label : String) (acts : List (Act H)) :
    ((Cache.after acts).get? label).map Entry.trace = (lastUse? label acts).bind recent? := by
  induction acts using List.reverseRecOn with
  | nil => rfl
  | append_singleton acts act ih =>
    rw [after_concat, lastUse?_concat]
    exact trace_perform (distinct_after acts) ih act

/-! ## Uses in a history -/

section Uses

variable {label : String} {acts : List (Act H)} {last : ItemList} {age : Nat}

theorem Act.exists_of_uses {act : Act H} (h : act.uses label = true) :
    ∃ prepare list, act = .access prepare label list := by
  cases act with
  | access prepare other list =>
    obtain rfl : other = label := by simpa [Act.uses] using h
    exact ⟨prepare, list, rfl⟩
  | endFrame => cases h

theorem Act.follow_use (prepare : List String → H) (list : ItemList)
    (last? : Option (ItemList × Nat)) :
    (Act.access prepare label list).follow label last? = some (list, 0) := if_pos rfl

/-- An act that does not use a label leaves its last use, which at most grows older. -/
theorem Act.follow_of_unused {act : Act H} (h : act.uses label = false)
    (last? : Option (ItemList × Nat)) :
    act.follow label last? =
      last?.map fun (list, age) => (list, age + [act].countP Act.endsFrame) := by
  cases act with
  | access prepare other list =>
    have hother : other ≠ label := by simpa [Act.uses] using h
    rw [Act.follow, if_neg hother]
    rcases last? with _ | ⟨list', age⟩ <;> rfl
  | endFrame => rfl

theorem unused_concat {later : List (Act H)} {act : Act H}
    (hlater : ∀ act ∈ later, act.uses label = false) (hact : act.uses label = false) :
    ∀ act' ∈ later ++ [act], act'.uses label = false :=
  List.forall_mem_append.2 ⟨hlater, List.forall_mem_singleton.2 hact⟩

theorem countP_endsFrame_cons (act : Act H) (later : List (Act H)) :
    (act :: later).countP Act.endsFrame =
      [act].countP Act.endsFrame + later.countP Act.endsFrame :=
  @List.countP_append _ Act.endsFrame [act] later

/-- Acts that do not use a label leave its last use, which only grows older. -/
theorem foldl_follow_of_unused {later : List (Act H)}
    (hlater : ∀ act ∈ later, act.uses label = false) :
    later.foldl (Act.follow label) (some (last, age)) =
      some (last, age + later.countP Act.endsFrame) := by
  induction later generalizing age with
  | nil => rfl
  | cons act later ih =>
    obtain ⟨hact, hrest⟩ := List.forall_mem_cons.1 hlater
    rw [List.foldl_cons, Act.follow_of_unused hact, Option.map_some, ih hrest,
      countP_endsFrame_cons act later, Nat.add_assoc]

theorem lastUse?_eq_some_iff :
    lastUse? label acts = some (last, age) ↔ ∃ earlier prepare later,
      acts = earlier ++ .access prepare label last :: later ∧
        (∀ act ∈ later, act.uses label = false) ∧ later.countP Act.endsFrame = age := by
  constructor
  · intro h
    induction acts using List.reverseRecOn generalizing age with
    | nil => cases h
    | append_singleton acts act ih =>
      rw [lastUse?_concat] at h
      by_cases huses : act.uses label = true
      · obtain ⟨prepare, list, rfl⟩ := Act.exists_of_uses huses
        obtain ⟨rfl, rfl⟩ := Prod.mk.inj (Option.some.inj ((Act.follow_use ..).symm.trans h))
        exact ⟨acts, prepare, [], rfl, nofun, rfl⟩
      · have hact := Bool.eq_false_of_not_eq_true huses
        rw [Act.follow_of_unused hact] at h
        obtain ⟨⟨list, age'⟩, h', heq⟩ := Option.map_eq_some_iff.1 h
        obtain ⟨rfl, rfl⟩ := Prod.mk.inj heq
        obtain ⟨earlier, prepare, later, rfl, hlater, rfl⟩ := ih h'
        exact ⟨earlier, prepare, later ++ [act], by simp, unused_concat hlater hact,
          List.countP_append⟩
  · rintro ⟨earlier, prepare, later, rfl, hlater, rfl⟩
    rw [lastUse?, List.foldl_append, List.foldl_cons, Act.follow_use,
      foldl_follow_of_unused hlater, Nat.zero_add]

/-- After a use there is a last use, and it is no older. -/
theorem exists_foldl_follow (later : List (Act H)) (last : ItemList) (age : Nat) :
    ∃ last' age', later.foldl (Act.follow label) (some (last, age)) = some (last', age') ∧
      age' ≤ age + later.countP Act.endsFrame := by
  induction later generalizing last age with
  | nil => exact ⟨last, age, rfl, le_rfl⟩
  | cons act later ih =>
    rw [List.foldl_cons, countP_endsFrame_cons]
    by_cases huses : act.uses label = true
    · obtain ⟨prepare, list, rfl⟩ := Act.exists_of_uses huses
      obtain ⟨last', age', hfold, hage⟩ := ih list 0
      rw [Act.follow_use]
      exact ⟨last', age', hfold, by omega⟩
    · rw [Act.follow_of_unused (Bool.eq_false_of_not_eq_true huses), Option.map_some,
        ← Nat.add_assoc]
      exact ih last (age + [act].countP Act.endsFrame)

end Uses

/-! ## What is kept, and what has to be prepared -/

/-- The label was used since the last frame end, or in the frame that it has closed. -/
def Recent (label : String) (acts : List (Act H)) : Prop :=
  ∃ earlier prepare list later, acts = earlier ++ .access prepare label list :: later ∧
    later.countP Act.endsFrame ≤ 1

/-- The most recent use of the label was with that list. -/
def UsedLast (label : String) (last : ItemList) (acts : List (Act H)) : Prop :=
  ∃ earlier prepare later, acts = earlier ++ .access prepare label last :: later ∧
    ∀ act ∈ later, act.uses label = false

/-- The label is used in every frame: no two frames end without a use before the second. -/
def UsedThroughout (label : String) (acts : List (Act H)) : Prop :=
  ∀ stretch, stretch <:+: acts → (∀ act ∈ stretch, act.uses label = false) →
    stretch.countP Act.endsFrame ≤ 1

/-- No access under the label has to prepare its list, in acts that come after earlier ones. -/
def Unprepared (label : String) (earlier acts : List (Act H)) : Prop :=
  ∀ before prepare list after, acts = before ++ .access prepare label list :: after →
    (Cache.after (earlier ++ before)).mustPrepare label list = false

section Kept

variable {label : String} {acts : List (Act H)} {list : ItemList}

theorem usedLast_iff {last : ItemList} :
    UsedLast label last acts ↔ ∃ age, lastUse? label acts = some (last, age) := by
  simp only [lastUse?_eq_some_iff]
  constructor
  · rintro ⟨earlier, prepare, later, hacts, hlater⟩
    exact ⟨_, earlier, prepare, later, hacts, hlater, rfl⟩
  · rintro ⟨_, earlier, prepare, later, hacts, hlater, -⟩
    exact ⟨earlier, prepare, later, hacts, hlater⟩

theorem recent_iff :
    Recent label acts ↔ ∃ last age, lastUse? label acts = some (last, age) ∧ age ≤ 1 := by
  constructor
  · rintro ⟨earlier, prepare, list, later, rfl, hlater⟩
    obtain ⟨last, age, hfold, hage⟩ := exists_foldl_follow later list 0
    refine ⟨last, age, ?_, by omega⟩
    rw [lastUse?, List.foldl_append, List.foldl_cons, Act.follow_use, hfold]
  · rintro ⟨last, age, huse, hage⟩
    obtain ⟨earlier, prepare, later, hacts, -, rfl⟩ := lastUse?_eq_some_iff.1 huse
    exact ⟨earlier, prepare, last, later, hacts, hage⟩

/-- What a last use has to tell, if there is something to tell. -/
theorem recent?_eq_some_iff {last : ItemList} {age : Nat} {trace : Nat × Bool} :
    recent? (last, age) = some trace ↔ age ≤ 1 ∧ trace = (last.address, age == 0) := by
  rcases age with _ | _ | age <;> simp [recent?, eq_comm]

/-- The cache has an entry of a label exactly if the label was used not two frame ends ago, and then
for the list that it was used with last. -/
theorem get?_after_eq_some_iff {address : Nat} :
    (∃ entry, (Cache.after acts).get? label = some entry ∧ entry.list.address = address) ↔
      ∃ last age, lastUse? label acts = some (last, age) ∧ age ≤ 1 ∧ last.address = address := by
  have htrace := trace_after label acts
  constructor
  · rintro ⟨entry, hentry, rfl⟩
    rw [hentry, Option.map_some, eq_comm, Option.bind_eq_some_iff] at htrace
    obtain ⟨⟨last, age⟩, huse, hrecent⟩ := htrace
    obtain ⟨hage, htrace⟩ := recent?_eq_some_iff.1 hrecent
    exact ⟨last, age, huse, hage, (congrArg Prod.fst htrace).symm⟩
  · rintro ⟨last, age, huse, hage, rfl⟩
    rw [huse, Option.bind_some, recent?_eq_some_iff.2 ⟨hage, rfl⟩, Option.map_eq_some_iff] at htrace
    obtain ⟨entry, hentry, htrace⟩ := htrace
    exact ⟨entry, hentry, congrArg Prod.fst htrace⟩

theorem contains_after_iff : (Cache.after acts).contains label = true ↔ Recent label acts := by
  rw [recent_iff, Cache.contains, Option.isSome_iff_exists]
  constructor
  · rintro ⟨entry, hentry⟩
    obtain ⟨last, age, huse, hage, -⟩ := get?_after_eq_some_iff.1 ⟨entry, hentry, rfl⟩
    exact ⟨last, age, huse, hage⟩
  · rintro ⟨last, age, huse, hage⟩
    obtain ⟨entry, hentry, -⟩ := get?_after_eq_some_iff.2 ⟨last, age, huse, hage, rfl⟩
    exact ⟨entry, hentry⟩

theorem mustPrepare_eq_false_iff {c : Cache H} :
    c.mustPrepare label list = false ↔
      ∃ entry, c.get? label = some entry ∧ entry.list.address = list.address := by
  unfold Cache.mustPrepare Cache.prepared?
  rcases c.get? label with _ | entry
  · simp
  · by_cases hsame : entry.list.address = list.address <;> simp [hsame]

/-- An access finds its list prepared exactly if the label was used not two frame ends ago, and last
with a list at the same place. -/
theorem mustPrepare_after_eq_false_iff :
    (Cache.after acts).mustPrepare label list = false ↔
      ∃ last age, lastUse? label acts = some (last, age) ∧ age ≤ 1 ∧
        last.address = list.address := by
  rw [mustPrepare_eq_false_iff, get?_after_eq_some_iff]

theorem mustPrepare_after_iff :
    (Cache.after acts).mustPrepare label list = true ↔
      (Cache.after acts).contains label = false ∨
        ∃ last, UsedLast label last acts ∧ last.address ≠ list.address := by
  rw [← Bool.not_eq_false, mustPrepare_after_eq_false_iff, ← Bool.not_eq_true, contains_after_iff,
    recent_iff]
  simp only [usedLast_iff]
  rcases lastUse? label acts with _ | ⟨last, age⟩
  · simp
  · simp [or_iff_not_imp_left]

/-- After a use of a label, and acts in which no access under it has to prepare, its last use was
with a list at the same place. -/
theorem exists_lastUse?_of_unprepared {earlier between : List (Act H)} {prepare : List String → H}
    (hquiet : Unprepared label (earlier ++ [.access prepare label list]) between) :
    ∃ last unused, unused <:+ between ∧ (∀ act ∈ unused, act.uses label = false) ∧
      last.address = list.address ∧
      lastUse? label (earlier ++ [.access prepare label list] ++ between) =
        some (last, unused.countP Act.endsFrame) := by
  induction between using List.reverseRecOn with
  | nil =>
    refine ⟨list, [], List.nil_suffix, nofun, rfl, ?_⟩
    rw [List.append_nil, lastUse?_concat, Act.follow_use]
    rfl
  | append_singleton between act ih =>
    obtain ⟨last, unused, hsuffix, hunused, haddress, huse⟩ :=
      ih fun before prepare list after hbetween =>
        hquiet before prepare list (after ++ [act]) (by rw [hbetween]; simp)
    rw [← List.append_assoc, lastUse?_concat, huse]
    by_cases huses : act.uses label = true
    · -- the access finds its list prepared, so it stands where the one before stood
      obtain ⟨prepare', list', rfl⟩ := Act.exists_of_uses huses
      have hfound := hquiet between prepare' list' [] rfl
      obtain ⟨last', age', huse', -, haddress'⟩ := mustPrepare_after_eq_false_iff.1 hfound
      obtain ⟨rfl, -⟩ := Prod.mk.inj (Option.some.inj (huse.symm.trans huse'))
      exact ⟨list', [], List.nil_suffix, nofun, haddress'.symm.trans haddress, Act.follow_use ..⟩
    · have hact := Bool.eq_false_of_not_eq_true huses
      refine ⟨last, unused ++ [act], List.suffix_concat_iff.2 (.inr ⟨unused, rfl, hsuffix⟩),
        unused_concat hunused hact, haddress, ?_⟩
      rw [Act.follow_of_unused hact, Option.map_some, List.countP_append]

end Kept

/-- Prepares a list and counts that. -/
def counting (prepare : List String → H) (items : List String) : StateM Nat H := do
  modify (· + 1)
  pure (prepare items)

/-- An access prepares its list once or not at all. -/
theorem run_accessM_counting (prepare : List String → H) (label : String) (list : ItemList)
    (c : Cache H) (n : Nat) :
    (c.accessM (counting prepare) label list).run n =
      (c.access prepare label list, if c.mustPrepare label list then n + 1 else n) := by
  unfold Cache.mustPrepare Cache.prepared? Cache.access Cache.accessM
  rcases c.get? label with _ | entry
  · rfl
  · by_cases hsame : entry.list.address = list.address
    · simp only [if_pos hsame]
      rfl
    · simp only [if_neg hsame]
      rfl

/-- After every history a label is in the cache exactly if it was used since the last frame end or
in the frame that it has closed, and the cache has as many entries as there are such labels. An
access prepares its list once or not at all, and it does exactly if its label is not in the cache or
was used last with a list at another place: while the cache keeps a list, no other list stands
there. So while a label is used in every frame, it is not prepared twice in succession for one
list. -/
theorem kept_and_prepared (acts : List (Act H)) :
    (∀ label, (Cache.after acts).contains label = true ↔ Recent label acts) ∧
      {label | Recent label acts}.encard = (Cache.after acts).size ∧
      (∀ prepare label list n, ((Cache.after acts).accessM (counting prepare) label list).run n =
        ((Cache.after acts).access prepare label list,
          if (Cache.after acts).mustPrepare label list then n + 1 else n)) ∧
      (∀ label list, (Cache.after acts).mustPrepare label list = true ↔
        (Cache.after acts).contains label = false ∨
          ∃ last, UsedLast label last acts ∧ last.address ≠ list.address) ∧
      ∀ earlier prepare label list between again,
        acts = earlier ++ [.access prepare label list] ++ between →
        UsedThroughout label between →
        Unprepared label (earlier ++ [.access prepare label list]) between →
        again.address = list.address → (Cache.after acts).mustPrepare label again = false := by
  refine ⟨fun label => contains_after_iff, ?_, fun prepare label list n =>
    run_accessM_counting prepare label list _ n, fun label list => mustPrepare_after_iff, ?_⟩
  · simp only [← contains_after_iff]
    exact (distinct_after acts).encard
  · rintro earlier prepare label list between again rfl hused hquiet hagain
    obtain ⟨last, unused, hsuffix, hunused, haddress, huse⟩ := exists_lastUse?_of_unprepared hquiet
    exact mustPrepare_after_eq_false_iff.2
      ⟨last, _, huse, hused unused hsuffix.isInfix hunused, haddress.trans hagain.symm⟩

/-- Two lists of the same items at two places. -/
def modeList : ItemList := ⟨7, ["a", "b"]⟩

def shadeList : ItemList := ⟨9, ["a", "b"]⟩

/-- In the frame after its use a label is in the cache, and its list is not prepared again, but a
list of the same items at another place is. -/
theorem kept_and_prepared_copy :
    let acts : List (Act Nat) :=
      [.access List.length "mode" modeList, .endFrame, .access List.length "shade" shadeList]
    (Cache.after acts).contains "mode" = true ∧ (Cache.after acts).size = 2 ∧
      (Cache.after acts).mustPrepare "mode" modeList = false ∧
      (Cache.after acts).mustPrepare "mode" shadeList = true := by
  intro acts
  obtain ⟨hcontains, -, -, hprepare, htwice⟩ := kept_and_prepared acts
  have hbetween : ∀ act ∈ acts.tail, act.uses "mode" = false := by decide
  refine ⟨(hcontains _).2 ⟨[], _, modeList, acts.tail, rfl, by decide⟩, rfl, ?_, ?_⟩
  · refine htwice [] _ "mode" modeList acts.tail modeList rfl (fun stretch hstretch _ => ?_)
      (fun before prepare list after hsplit => ?_) rfl
    · exact hstretch.sublist.countP_le.trans (by decide)
    · have hused := hbetween _ (hsplit ▸ List.mem_append_right before List.mem_cons_self)
      exact absurd hused (by simp [Act.uses])
  · exact (hprepare "mode" shadeList).2
      (.inr ⟨modeList, ⟨[], _, acts.tail, rfl, hbetween⟩, by decide⟩)

end WindowHost.Label
