import WindowHost.Proofs.Order
import WindowHost.Proofs.Vocabulary

/-!
# Buttons by name

Events name the buttons that they tell of, and a host program asks for buttons by name. Both read
the vocabulary. So what a window answers about a name is what was reported last about the buttons of
that name, and a name that is made up from a code is never down.
-/

namespace WindowHost

variable {W α β Raw Frame : Type}

/-! ## Reports about a button -/

/-- A button is down after its actions if the last of them was no release. -/
theorem downAfter_false_iff (actions : List Action) :
    downAfter false actions = true ↔
      actions.getLast? = some .press ∨ actions.getLast? = some .autoRepeat := by
  rw [downAfter]
  rcases actions.getLast? with _ | action
  · simp
  · cases action <;> simp [Action.leavesDown]

/-- The press of a button joins the queue by the name of the button. -/
theorem Report.event?_of_press {r : Report α Raw} {b : Button} (h : r.actionOn? b = some .press) :
    r.event? = some ⟨.press, b.label⟩ := by
  rcases r with ⟨_ | o, raw⟩
  · cases h
  · cases o with
    | key c action | mouse c action =>
      obtain ⟨rfl, rfl⟩ : c = b ∧ action = .press := by
        simpa [Report.actionOn?, Occurrence.actionOn?] using h
      rfl
    | _ => cases h

/-- After a press and nothing more about a button, its last action is that press. -/
theorem getLast?_actionsOn_press {before after : List (Report α Raw)} {r : Report α Raw}
    {b : Button} (hpress : r.actionOn? b = some .press) (hafter : actionsOn b after = []) :
    (actionsOn b (before ++ r :: after)).getLast? = some .press := by
  rw [actionsOn] at hafter
  rw [actionsOn, List.filterMap_append, List.filterMap_cons, hpress, hafter,
    List.getLast?_append]
  rfl

namespace Window

/-! ## Asking by name -/

section Asking

variable {s : Window W α β} {b : Button} {name : String}

theorem isPressed_iff :
    s.isPressed name = true ↔
      ∃ b, b.known? = some (Button.canonical name) ∧ s.input.isPressed b = true := by
  simp only [← Button.mem_ofName_iff]
  rw [isPressed]
  rcases Button.ofName name with e | buttons
  · simp
  · simp

theorem isPressed_of_known (hname : b.known? = some name) (hdown : s.input.isPressed b = true) :
    s.isPressed name = true :=
  isPressed_iff.2 ⟨b, (Button.canonical_of_known? hname).symm ▸ hname, hdown⟩

theorem isPressed_of_unknown (hname : ∀ b : Button, b.known? ≠ some (Button.canonical name)) :
    s.isPressed name = false := by
  refine Bool.eq_false_iff.2 fun hdown => ?_
  obtain ⟨b, hb, -⟩ := isPressed_iff.1 hdown
  exact hname b hb

end Asking

variable [Scalar α] [Narrowing α β] [Scalar β] {d : Devices W α Raw Frame} {config : Config}
  {world : W} {s : Window W α β} {turns : List (Turn W α β Raw)}

/-- A button is down if the last report of the course about it was a press or a repetition. -/
theorem Course.isPressed_iff (h : Course d config world turns s) (b : Button) :
    s.input.isPressed b = true ↔
      (actionsOn b ((history turns).map Delivery.report)).getLast? = some .press ∨
        (actionsOn b ((history turns).map Delivery.report)).getLast? = some .autoRepeat := by
  rw [h.isPressed b]
  exact downAfter_false_iff _

/-- After every course a name counts as down exactly if the last report about some button of that
name, where a letter may be in either case, was a press or a repetition, and one of several names
does if one of them does. So the name in the event of a press counts as down as long as no other
report about that button follows, whatever becomes of another button with the same name. A name
outside the vocabulary never counts as down, and neither does one that is made up from a code. -/
theorem down_by_name (h : Course d config world turns s) :
    (∀ name, s.isPressed name = true ↔ ∃ b, b.known? = some (Button.canonical name) ∧
      ((actionsOn b ((history turns).map Delivery.report)).getLast? = some .press ∨
        (actionsOn b ((history turns).map Delivery.report)).getLast? = some .autoRepeat)) ∧
      (∀ names, s.isAnyPressed names = true ↔ ∃ name ∈ names, s.isPressed name = true) ∧
      (∀ before r after b name, (history turns).map Delivery.report = before ++ r :: after →
        b.known? = some name → r.actionOn? b = some .press → actionsOn b after = [] →
          r.event? = some ⟨.press, name⟩ ∧ ⟨.press, name⟩ ∈ Delivery.events (history turns) ∧
            s.isPressed name = true) ∧
      (∀ (s : Window W α β) name, (∀ b : Button, b.known? ≠ some (Button.canonical name)) →
        s.isPressed name = false) ∧
      (∀ (s : Window W α β) text, s.isPressed ("Key_" ++ text) = false) ∧
      ∀ (s : Window W α β) (b : Button), b.known? = none →
        b.label = "Key_" ++ b.code ∧ s.isPressed b.label = false := by
  refine ⟨fun name => ?_, fun names => List.any_eq_true, ?_, fun s name => isPressed_of_unknown,
    fun s text => isPressed_of_unknown (Button.known?_ne_made_up · text), fun s b hb => ?_⟩
  · simp only [isPressed_iff, h.isPressed_iff]
  · intro before r after b name hsplit hname hpress hafter
    have hevent : r.event? = some ⟨.press, name⟩ :=
      Button.label_of_known? hname ▸ Report.event?_of_press hpress
    have hr : r ∈ (history turns).map Delivery.report := hsplit ▸ by simp
    obtain ⟨x, hx, hreport⟩ := List.mem_map.1 hr
    refine ⟨hevent, List.mem_filterMap.2 ⟨x, hx, hreport ▸ hevent⟩, ?_⟩
    refine isPressed_of_known hname ((h.isPressed_iff b).2 (.inl ?_))
    rw [hsplit]
    exact getLast?_actionsOn_press hpress hafter
  · have hlabel := Button.label_of_unknown hb
    refine ⟨hlabel, ?_⟩
    rw [hlabel]
    exact isPressed_of_unknown (Button.known?_ne_made_up · b.code)

/-- Both keys of a modifier go down and the right one comes up, and so does a key without a name. -/
def modifierBatch : List (Report Rat Unit) :=
  [⟨some (.key (.key .shiftLeft) .press), none⟩, ⟨some (.key (.key .shiftRight) .press), none⟩,
    ⟨some (.key (.key .shiftRight) .release), none⟩, ⟨some (.key (.key .f13) .press), none⟩]

def modifierStage : Script.Stage Rat Unit where
  platform := { polls := [modifierBatch], size := ⟨640, 480⟩ }
  renderer := { size := ⟨640, 480⟩ }
  gui := {}
  clock := {}

def modifierWindow : Window (Script.Stage Rat Unit) Rat Rat :=
  (openWith Script.devices {} modifierStage).2

def modifierOpening : Turn (Script.Stage Rat Unit) Rat Rat Unit where
  operation := none
  batch := openingBatch {}
  delivered := [.resized .opening ⟨[], ⟨640, 480⟩⟩]
  answer := .ok .done
  slot := {}

/-- The turn in which that window takes the events. -/
def modifierTurn : Turn (Script.Stage Rat Unit) Rat Rat Unit where
  operation := some (.pollEvents .any)
  batch := modifierBatch
  delivered := modifierBatch.map .plain
  answer := .ok (.events [⟨.press, "Shift"⟩, ⟨.press, "Shift"⟩, ⟨.release, "Shift"⟩,
    ⟨.press, "Key_F13"⟩])
  slot := {}

theorem modifier_course :
    ∃ s, Course Script.devices {} modifierStage [modifierOpening, modifierTurn] s := by
  have hopen : Course Script.devices {} modifierStage [modifierOpening] modifierWindow :=
    opened_at_once (s := modifierWindow) ⟨640, 480⟩ rfl rfl rfl rfl rfl
  have hflat : Flatten modifierBatch modifierTurn.delivered :=
    .plain rfl (.plain rfl (.plain rfl (.plain rfl .nil)))
  have hpath : ∃ s, Path Script.devices modifierWindow.config.size
      (modifierWindow.inWorld (Script.devices.platform.poll modifierWindow.world).2)
      modifierTurn.delivered s :=
    ⟨_, .plain rfl (.plain rfl (.plain rfl (.plain rfl .nil)))⟩
  obtain ⟨s, hpath⟩ := hpath
  exact ⟨_, hopen.next (step_pollEvents ⟨rfl, rfl⟩ rfl (by decide +kernel) hflat hpath)⟩

theorem down_by_name_shift :
    ∃ s, Course Script.devices {} modifierStage [modifierOpening, modifierTurn] s ∧
      s.input.isPressed (.key .shiftRight) = false ∧ s.isPressed "Shift" = true ∧
      s.isPressed "Key_F13" = false := by
  obtain ⟨s, hcourse⟩ := modifier_course
  obtain ⟨-, -, hpress, -, -, hcode⟩ := down_by_name hcourse
  obtain ⟨-, -, hshift⟩ := hpress [.opening] _ _ (.key .shiftLeft) "Shift" rfl rfl rfl rfl
  refine ⟨s, hcourse, ?_, hshift, (hcode s (.key .f13) rfl).2⟩
  rw [hcourse.isPressed]
  rfl

end Window

end WindowHost
