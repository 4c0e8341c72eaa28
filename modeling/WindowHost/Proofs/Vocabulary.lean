import Mathlib.Data.List.Nodup
import WindowHost.Button.Vocabulary

/-!
# Buttons and their names

The vocabulary has every button once. `Button.name` reads it from a button to its name, and
`Button.ofName` from a name to its buttons, where a single character has a way of its own.
`ofName_eq` leads both ways back to the entries of the name, `bearers`, so each look-up undoes the
other (`ofName_inverts_name`), and a name that is made up from a code finds no button.
-/

namespace WindowHost.Button

/-! ## From buttons to names -/

theorem nodup_vocabulary : (vocabulary.map (·.2)).Nodup := by decide +kernel

/-- The name of a button is the one of its only entry. -/
theorem known?_eq_some_iff {b : Button} {name : String} :
    b.known? = some name ↔ (name, b) ∈ vocabulary := by
  rw [known?, Option.map_eq_some_iff]
  constructor
  · rintro ⟨⟨name, c⟩, hfind, rfl⟩
    obtain rfl : c = b := by simpa using List.find?_some hfind
    exact List.mem_of_find?_eq_some hfind
  · intro hmem
    rcases hfind : vocabulary.find? fun entry => entry.2 == b with _ | ⟨name', c⟩
    · exact absurd (beq_self_eq_true b) (List.find?_eq_none.1 hfind _ hmem)
    · obtain rfl : c = b := by simpa using List.find?_some hfind
      have hsame := List.inj_on_of_nodup_map nodup_vocabulary
        (List.mem_of_find?_eq_some hfind) hmem rfl
      exact ⟨_, hfind, congrArg Prod.fst hsame⟩

theorem name_eq_ok_iff {b : Button} {s : String} : b.name = .ok s ↔ b.known? = some s := by
  unfold name
  rcases b.known? with _ | s' <;> simp

theorem label_of_known? {b : Button} {name : String} (h : b.known? = some name) :
    b.label = name := by
  rw [label, h, Option.getD_some]

theorem label_of_unknown {b : Button} (h : b.known? = none) : b.label = "Key_" ++ b.code := by
  rw [label, h, Option.getD_none]

/-- The names of the vocabulary are in the form that is looked up. -/
theorem canonical_of_known? {b : Button} {name : String} (h : b.known? = some name) :
    canonical name = name := by
  have hall : ∀ entry ∈ vocabulary, canonical entry.1 = entry.1 := by decide +kernel
  exact hall _ (known?_eq_some_iff.1 h)

/-- No name of the vocabulary is made up from a code. -/
theorem known?_ne_made_up (b : Button) (text : String) :
    b.known? ≠ some (canonical ("Key_" ++ text)) := by
  intro h
  have hlong : canonical ("Key_" ++ text) = "Key_" ++ text := by
    rw [canonical, String.toList_append]
    rfl
  rw [hlong] at h
  have hall : ∀ entry ∈ vocabulary, ¬ "Key_".toList <+: entry.1.toList := by decide +kernel
  refine hall _ (known?_eq_some_iff.1 h) ?_
  rw [String.toList_append]
  exact List.prefix_append _ _

/-! ## The buttons of a name -/

/-- The buttons that have exactly this name, in the order of the vocabulary. -/
def bearers (name : String) : List Button :=
  (vocabulary.filter fun entry => entry.1 == name).map (·.2)

theorem mem_bearers {b : Button} {name : String} : b ∈ bearers name ↔ b.known? = some name := by
  rw [known?_eq_some_iff, bearers]
  simp

theorem nodup_bearers (name : String) : (bearers name).Nodup :=
  nodup_vocabulary.sublist (List.filter_sublist.map _)

/-- The first button of a name is the one of its first entry. -/
theorem head?_bearers (name : String) :
    (bearers name).head? = (vocabulary.find? fun entry => entry.1 == name).map (·.2) := by
  rw [bearers, List.head?_map, List.head?_filter]

/-! ## Single characters -/

/-- A letter or a digit is the only button of its name. -/
theorem bearers_plain :
    ∀ entry ∈ letterKeys ++ digitKeys, bearers entry.1 = [.key entry.2] := by decide +kernel

/-- The names of letters and digits are single characters. -/
theorem length_plain :
    ∀ entry ∈ letterKeys ++ digitKeys, entry.1.toList.length = 1 := by decide +kernel

/-- A small letter has its capital among the letters; no other character has another capital. -/
theorem toUpper_plain (c : Char) :
    (∃ k, (String.singleton c.toUpper, k) ∈ letterKeys ++ digitKeys) ∨ c.toUpper = c := by
  by_cases hsmall : 'a'.val ≤ c.val ∧ c.val ≤ 'z'.val
  · left
    have hall : ∀ n ∈ List.range 26, ∃ entry ∈ letterKeys ++ digitKeys,
        entry.1 = String.singleton (Char.ofNat (97 + n)).toUpper := by decide +kernel
    have hlow : 97 ≤ c.toNat := hsmall.1
    have hhigh : c.toNat ≤ 122 := hsmall.2
    obtain ⟨entry, hentry, hname⟩ := hall (c.toNat - 97) (List.mem_range.2 (by omega))
    rw [Nat.add_sub_cancel' hlow, Char.ofNat_toNat] at hname
    exact ⟨entry.2, hname ▸ hentry⟩
  · exact .inr (dif_neg hsmall)

/-- A key that is found through a single character has that character for its name. -/
theorem canonical_of_plainKey? {s : String} {k : Key} (h : plainKey? s = some k) :
    (canonical s, k) ∈ letterKeys ++ digitKeys := by
  unfold plainKey? at h
  unfold canonical
  split at h
  · next c hc =>
    obtain ⟨⟨name, k⟩, hfind, rfl⟩ := Option.map_eq_some_iff.1 h
    obtain rfl : name = String.singleton c.toUpper := by simpa using List.find?_some hfind
    exact List.mem_of_find?_eq_some hfind
  · cases h

/-- Otherwise the name is looked up as it is, and no letter and no digit has it. -/
theorem canonical_of_not_plain {s : String} (h : plainKey? s = none) :
    canonical s = s ∧ ∀ entry ∈ letterKeys ++ digitKeys, entry.1 ≠ s := by
  unfold plainKey? at h
  unfold canonical
  split at h
  · next c hc =>
    rw [Option.map_eq_none_iff, List.find?_eq_none] at h
    have hsame : c.toUpper = c := by
      rcases toUpper_plain c with ⟨k, hk⟩ | hsame
      · exact absurd (beq_self_eq_true _) (h _ hk)
      · exact hsame
    have hs : s = String.singleton c := by rw [← String.toList_inj, hc, String.toList_singleton]
    refine ⟨by rw [hsame, hs], fun entry hentry hname => h entry hentry ?_⟩
    rw [hname, hsame, hs, beq_self_eq_true]
  · next hlong =>
    refine ⟨rfl, fun entry hentry hname => ?_⟩
    obtain ⟨c, hc⟩ := List.length_eq_one_iff.1 (length_plain entry hentry)
    exact hlong c (hname ▸ hc)

/-- Among the longer names a name has all its buttons, unless it is that of a letter or a digit. -/
theorem named_eq {s : String} (h : ∀ entry ∈ letterKeys ++ digitKeys, entry.1 ≠ s) :
    named s = bearers s := by
  have hnone : (letterKeys ++ digitKeys).filter (fun entry => entry.1 == s) = [] :=
    List.filter_eq_nil_iff.2 fun entry hentry => by simpa using h entry hentry
  rw [List.filter_append] at hnone
  obtain ⟨hletters, hdigits⟩ := List.append_eq_nil_iff.1 hnone
  simp only [named, bearers, vocabulary, List.filter_append, List.map_append, List.filter_map,
    List.map_map, Function.comp_def, hletters, hdigits, List.map_nil, List.nil_append]

/-- Looking a name up finds its bearers, where a letter may be in either case. -/
theorem ofName_eq (s : String) :
    ofName s =
      if bearers (canonical s) = [] then .error (.name s) else .ok (bearers (canonical s)) := by
  unfold ofName
  rcases hplain : plainKey? s with _ | k
  · obtain ⟨hcanonical, hlong⟩ := canonical_of_not_plain hplain
    rw [hcanonical, named_eq hlong]
    rcases bearers s with _ | ⟨b, buttons⟩ <;> rfl
  · rw [bearers_plain _ (canonical_of_plainKey? hplain)]
    rfl

theorem ofName_eq_ok_iff {s : String} {buttons : List Button} :
    ofName s = .ok buttons ↔ buttons ≠ [] ∧ bearers (canonical s) = buttons := by
  rw [ofName_eq]
  by_cases hnone : bearers (canonical s) = []
  · rw [if_pos hnone, hnone]
    exact ⟨nofun, fun h => absurd h.2.symm h.1⟩
  · rw [if_neg hnone, Except.ok.injEq]
    exact ⟨fun h => ⟨h ▸ hnone, h⟩, And.right⟩

theorem ofName_eq_error_iff {s : String} {e : UnrecognizedButton} :
    ofName s = .error e ↔ e = .name s ∧ bearers (canonical s) = [] := by
  rw [ofName_eq]
  by_cases hnone : bearers (canonical s) = []
  · rw [if_pos hnone, Except.error.injEq]
    exact ⟨fun h => ⟨h.symm, hnone⟩, fun h => h.1.symm⟩
  · rw [if_neg hnone]
    exact ⟨nofun, fun h => absurd h.2 hnone⟩

/-- Looking a name up finds the buttons that are named so, where a letter may be in either case. -/
theorem mem_ofName_iff {b : Button} {name : String} :
    (∃ buttons, ofName name = .ok buttons ∧ b ∈ buttons) ↔ b.known? = some (canonical name) := by
  simp only [ofName_eq_ok_iff, ← mem_bearers]
  exact ⟨fun ⟨_, ⟨_, rfl⟩, hb⟩ => hb, fun hb => ⟨_, ⟨List.ne_nil_of_mem hb, rfl⟩, hb⟩⟩

theorem bearers_eq_nil_iff {name : String} :
    bearers name = [] ↔ ∀ b : Button, b.known? ≠ some name := by
  simp only [List.eq_nil_iff_forall_not_mem, mem_bearers, ne_eq]

/-- A button that is found has an entry before which no other entry has the name. -/
theorem exists_first_entry {name : String} (h : bearers name ≠ []) :
    ∃ entry, vocabulary.find? (fun entry => entry.1 == name) = some entry ∧
      (bearers name).head? = some entry.2 := by
  obtain ⟨b, hb⟩ := Option.ne_none_iff_exists'.1 (List.head?_eq_none_iff.not.2 h)
  obtain ⟨entry, hentry, rfl⟩ := Option.map_eq_some_iff.1 (head?_bearers name ▸ hb)
  exact ⟨entry, hentry, hb⟩

/-- The two ways through the vocabulary undo each other. Whatever the button and the name, looking
the name up finds the button exactly if the button has that name, where a single letter may be in
either case; it finds nothing exactly if no button has the name. What it finds are different
buttons, of which the one of the first entry comes first. A button without a name goes by its code,
and by that name nothing is found. -/
theorem ofName_inverts_name :
    (∀ s b, (∃ buttons, ofName s = .ok buttons ∧ b ∈ buttons) ↔ b.name = .ok (canonical s)) ∧
      (∀ s, ofName s = .error (.name s) ↔ ∀ b : Button, b.name ≠ .ok (canonical s)) ∧
      (∀ s e, ofName s = .error e → e = .name s) ∧
      (∀ s buttons, ofName s = .ok buttons → buttons.Nodup ∧
        ∃ entry, vocabulary.find? (fun entry => entry.1 == canonical s) = some entry ∧
          buttons.head? = some entry.2) ∧
      ∀ b : Button, (∀ s, b.name ≠ .ok s) →
        b.label = "Key_" ++ b.code ∧ ofName b.label = .error (.name b.label) := by
  refine ⟨fun s b => mem_ofName_iff.trans name_eq_ok_iff.symm, fun s => ?_,
    fun s e he => (ofName_eq_error_iff.1 he).1, fun s buttons hbuttons => ?_, fun b hb => ?_⟩
  · rw [ofName_eq_error_iff, bearers_eq_nil_iff]
    simp only [ne_eq, name_eq_ok_iff, true_and]
  · obtain ⟨hsome, rfl⟩ := ofName_eq_ok_iff.1 hbuttons
    exact ⟨nodup_bearers _, exists_first_entry hsome⟩
  · have hunknown : b.known? = none :=
      Option.eq_none_iff_forall_ne_some.2 fun s hs => hb s (name_eq_ok_iff.2 hs)
    rw [label_of_unknown hunknown]
    exact ⟨rfl, ofName_eq_error_iff.2
      ⟨rfl, bearers_eq_nil_iff.2 fun c => known?_ne_made_up c b.code⟩⟩

/-- Both keys of a modifier are found by its name, the left one first; a further mouse button is not
found by the number that it goes by. -/
theorem ofName_inverts_name_shift :
    ofName "Shift" = .ok [.key .shiftLeft, .key .shiftRight] ∧
      [Button.key .shiftLeft, .key .shiftRight].Nodup ∧
      (Button.key .shiftRight).name = .ok (canonical "Shift") ∧
      (Button.mouse (.other 9)).label = "Key_9" ∧ ofName "Key_9" = .error (.name "Key_9") := by
  have hshift : ofName "Shift" = .ok [.key .shiftLeft, .key .shiftRight] := by decide +kernel
  obtain ⟨hmem, -, -, hlist, hcode⟩ := ofName_inverts_name
  obtain ⟨hlabel, hnone⟩ := hcode (.mouse (.other 9)) nofun
  have hnine : (Button.mouse (.other 9)).label = "Key_9" := hlabel.trans (by decide +kernel)
  exact ⟨hshift, (hlist _ _ hshift).1, (hmem _ _).1 ⟨_, hshift, by decide⟩, hnine, hnine ▸ hnone⟩

end WindowHost.Button
