import Mathlib.Data.List.DropRight
import WindowHost.Proofs.CursorLag
import WindowHost.Proofs.Drift
import WindowHost.Proofs.Pumping

/-!
# Reports of the frame rate

A log of `Tick`s tells of every frame that was counted when that was and what was reported then.
`lastReport` and `pending` are what a log says about its last report and the frames after it, and a
`Rate` keeps just that (`Rate.Tallies`). So over exact numbers each average accounts for the frames
since the report before, wherever the clock goes, and no frame is left out. The titles that a window
writes are such reports: `Shown` logs the shows that come to counting their frame.
-/

namespace WindowHost

namespace Pacing

/-! ## Logs of frames -/

/-- A frame that was counted: when that was, and what was reported then. -/
structure Tick (ρ : Type) where
  now : Instant
  report : Option ρ
  deriving DecidableEq, Repr

namespace Tick

variable {ρ : Type} {start : Instant} {log : List (Tick ρ)} {tick : Tick ρ}
  {P : List (Tick ρ) → Tick ρ → Prop}

/-- When the last report was, or the start as long as there is none. -/
def lastReport (start : Instant) (log : List (Tick ρ)) : Instant :=
  log.foldl (fun last tick => if tick.report.isSome then tick.now else last) start

/-- How many frames there were after the last report. -/
def pending (log : List (Tick ρ)) : Nat := (log.rtakeWhile (·.report.isNone)).length

/-- Something that holds of each frame of a log and of the frames before it. -/
def Each (P : List (Tick ρ) → Tick ρ → Prop) (log : List (Tick ρ)) : Prop :=
  ∀ before tick, before ++ [tick] <+: log → P before tick

/-- A frame reports exactly if a second or more has passed since the last report. -/
def ReportsBySeconds (start : Instant) : List (Tick ρ) → Prop :=
  Each fun before tick => tick.report.isSome ↔ lastReport start before + nanosPerSecond ≤ tick.now

/-- There are fewer frames from one report to the next than 32 bits can count, the one that reports
included. -/
def Countable : List (Tick ρ) → Prop := Each fun before _ => pending before + 1 < UInt32.size

theorem each_nil : Each P [] := by
  intro before tick h
  simp at h

theorem each_concat : Each P (log ++ [tick]) ↔ Each P log ∧ P log tick := by
  constructor
  · intro h
    refine ⟨fun before tick hprefix => h before tick ?_, h log tick (List.prefix_refl _)⟩
    exact hprefix.trans (List.prefix_append _ _)
  · rintro ⟨h, hlast⟩ before tick' hprefix
    rcases List.prefix_concat_iff.1 hprefix with heq | hprefix
    · obtain ⟨rfl, hsingle⟩ := List.append_inj' heq rfl
      obtain rfl := List.head_eq_of_cons_eq hsingle
      exact hlast
    · exact h before tick' hprefix

theorem lastReport_concat :
    lastReport start (log ++ [tick]) =
      if tick.report.isSome then tick.now else lastReport start log := by
  simp [lastReport]

theorem pending_concat :
    pending (log ++ [tick]) = if tick.report.isSome then 0 else pending log + 1 := by
  unfold pending
  by_cases hreport : tick.report.isSome = true
  · simp [hreport, Option.ne_none_iff_isSome.2 hreport]
  · simp [Option.not_isSome_iff_eq_none.1 hreport]

theorem pending_le_length (log : List (Tick ρ)) : pending log ≤ log.length :=
  (List.rtakeWhile_suffix _ _).length_le

theorem countable_of_length (h : log.length < UInt32.size) : Countable log := by
  intro before tick hprefix
  have hlength := hprefix.length_le
  have hpending := pending_le_length before
  simp at hlength
  omega

/-- A log that is countable has a countable number of frames at its end. -/
theorem Countable.pending_lt (h : Countable log) : pending log < UInt32.size := by
  induction log using List.reverseRecOn with
  | nil => exact Nat.zero_lt_succ _
  | append_singleton log tick _ =>
    have hlast : pending log + 1 < UInt32.size := (each_concat.1 h).2
    rw [pending_concat]
    split <;> omega

/-! ## What the reports account for -/

/-- The frames that the averages of a log stand for: each average times the seconds since the report
before. -/
def covered (start : Instant) : List (Tick Rat) → Rat
  | [] => 0
  | tick :: log =>
    match tick.report with
    | some average => average * inSeconds (tick.now - start) + covered tick.now log
    | none => covered start log

theorem covered_concat (start : Instant) (log : List (Tick Rat)) (tick : Tick Rat) :
    covered start (log ++ [tick]) =
      covered start log +
        (tick.report.elim 0 fun average =>
          average * inSeconds (tick.now - lastReport start log)) := by
  induction log generalizing start with
  | nil =>
    rcases tick with ⟨now, _ | average⟩
    · simp [covered]
    · simp [covered, lastReport]
  | cons first log ih =>
    rcases first with ⟨now, _ | average⟩
    · exact ih start
    · show _ * _ + covered now (log ++ [tick]) = _ * _ + covered now log + _
      rw [ih now, add_assoc]
      rfl

/-- Reports that are averages of the frames since the one before leave no frame out. -/
theorem covered_add_pending {log : List (Tick Rat)}
    (h : Each (fun before tick => ∀ average ∈ tick.report,
      average * inSeconds (tick.now - lastReport start before) = pending before + 1) log) :
    covered start log + pending log = log.length := by
  induction log using List.reverseRecOn with
  | nil => simp [covered, pending, List.rtakeWhile]
  | append_singleton log tick ih =>
    obtain ⟨hlog, hlast⟩ := each_concat.1 h
    have hrest := ih hlog
    rw [covered_concat, pending_concat, List.length_append, List.length_singleton]
    rcases tick with ⟨now, _ | average⟩
    · simp only [Option.elim_none, Option.isSome_none]
      push_cast
      linarith
    · have haverage := hlast average rfl
      simp only [Option.elim_some, Option.isSome_some, if_true]
      push_cast
      linarith

end Tick

/-! ## Counting frames -/

namespace Rate

open Tick

variable {α ρ : Type} [Scalar α] {start now : Instant} {log : List (Tick ρ)} {r : Rate}

theorem since_lt_iff (now last : Int) :
    Instant.since now last < nanosPerSecond ↔ ¬ last + nanosPerSecond ≤ now := by
  have hpos : 0 < nanosPerSecond := by decide
  show (now - last).toNat < nanosPerSecond ↔ ¬ last + (nanosPerSecond : Int) ≤ now
  omega

theorem tick_eq (r : Rate) (now : Instant) :
    (r.tick now : Option α × Rate) =
      if r.lastReport + nanosPerSecond ≤ now then
        (some (Scalar.ofNat (r.frames + 1).toNat /
          Duration.seconds (Instant.since now r.lastReport)), ⟨now, 0⟩)
      else (none, { r with frames := r.frames + 1 }) := by
  unfold tick
  by_cases hdue : r.lastReport + nanosPerSecond ≤ now
  · rw [if_pos hdue]
    exact if_neg fun hlt => (since_lt_iff _ _).1 hlt hdue
  · rw [if_neg hdue]
    exact if_pos ((since_lt_iff _ _).2 hdue)

theorem isSome_tick (r : Rate) (now : Instant) :
    (r.tick now : Option α × Rate).1.isSome ↔ r.lastReport + nanosPerSecond ≤ now := by
  rw [tick_eq]
  split <;> simp [*]

/-- What a rate keeps of a log that began at the start: the last report, and the number of the
frames since then in 32 bits. -/
structure Tallies (start : Instant) (log : List (Tick ρ)) (r : Rate) : Prop where
  lastReport : r.lastReport = Tick.lastReport start log
  frames : r.frames = UInt32.ofNat (pending log)

theorem tallies_start (start : Instant) : (Rate.start start).Tallies start ([] : List (Tick ρ)) :=
  ⟨rfl, rfl⟩

/-- One more frame, where anything may be reported if a report is due. -/
theorem Tallies.tick (h : r.Tallies start log) (tick : Tick ρ)
    (hreport : tick.report.isSome = (r.tick tick.now : Option α × Rate).1.isSome) :
    (r.tick tick.now : Option α × Rate).2.Tallies start (log ++ [tick]) := by
  have hdue := isSome_tick (α := α) r tick.now
  rw [← hreport] at hdue
  rw [tick_eq]
  by_cases hsome : tick.report.isSome = true
  · rw [if_pos (hdue.1 hsome)]
    constructor
    · rw [lastReport_concat, if_pos hsome]
    · rw [pending_concat, if_pos hsome]
      rfl
  · rw [if_neg (mt hdue.2 hsome)]
    constructor
    · rw [lastReport_concat, if_neg hsome]
      exact h.lastReport
    · rw [pending_concat, if_neg hsome, UInt32.ofNat_add, ← h.frames]
      rfl

theorem Tallies.isSome_tick (h : r.Tallies start log) (now : Instant) :
    (r.tick now : Option α × Rate).1.isSome ↔
      Tick.lastReport start log + nanosPerSecond ≤ now := by
  rw [← h.lastReport]
  exact Rate.isSome_tick r now

/-- The average is that of the frames since the last report. -/
theorem Tallies.average_eq (h : r.Tallies start log) (hcount : pending log + 1 < UInt32.size)
    {average : α} (haverage : (r.tick now : Option α × Rate).1 = some average) :
    average = Scalar.ofNat (pending log + 1) /
      Duration.seconds (Instant.since now (Tick.lastReport start log)) := by
  have hframes : (r.frames + 1).toNat = pending log + 1 := by
    rw [h.frames, ← UInt32.toNat_ofNat_of_lt' hcount, UInt32.ofNat_add]
    rfl
  rw [tick_eq] at haverage
  split at haverage
  · obtain rfl := Option.some.inj haverage
    rw [hframes, h.lastReport]
  · cases haverage

theorem one_le_inSeconds {nanos : Int} (h : nanosPerSecond ≤ nanos) : 1 ≤ inSeconds nanos := by
  have hcast : ((1000000000 : Int) : Rat) ≤ nanos := by exact_mod_cast h
  unfold inSeconds
  push_cast at hcast
  linarith

/-- Counts a frame and logs it. -/
def count (counted : List (Tick α) × Rate) (now : Instant) : List (Tick α) × Rate :=
  let (report, rate) := counted.2.tick now
  (counted.1 ++ [⟨now, report⟩], rate)

/-- The log of the frames at those instants, and the rate that is left after them. -/
def countAll (start : Instant) (nows : List Instant) : List (Tick α) × Rate :=
  nows.foldl count ([], .start start)

variable {nows : List Instant}

theorem countAll_concat (start : Instant) (nows : List Instant) (now : Instant) :
    (countAll start (nows ++ [now]) : List (Tick α) × Rate) = count (countAll start nows) now := by
  rw [countAll, List.foldl_append]
  rfl

theorem map_now_countAll (start : Instant) (nows : List Instant) :
    ((countAll start nows).1 : List (Tick α)).map Tick.now = nows := by
  induction nows using List.reverseRecOn with
  | nil => rfl
  | append_singleton nows now ih =>
    rw [countAll_concat, count, List.map_append, ih]
    rfl

theorem tallies_countAll (start : Instant) (nows : List Instant) :
    (countAll start nows : List (Tick α) × Rate).2.Tallies start
      (countAll start nows : List (Tick α) × Rate).1 := by
  induction nows using List.reverseRecOn with
  | nil => exact tallies_start start
  | append_singleton nows now ih =>
    rw [countAll_concat]
    exact ih.tick ⟨now, _⟩ rfl

theorem reportsBySeconds_countAll (start : Instant) (nows : List Instant) :
    ReportsBySeconds start ((countAll start nows).1 : List (Tick α)) := by
  induction nows using List.reverseRecOn with
  | nil => exact each_nil
  | append_singleton nows now ih =>
    rw [countAll_concat]
    exact each_concat.2 ⟨ih, (tallies_countAll start nows).isSome_tick now⟩

/-- An average times its time is the number of frames in that time. -/
theorem averages_countAll (start : Instant) (nows : List Instant)
    (hcount : Countable ((countAll start nows).1 : List (Tick Rat))) :
    Each (fun before tick => ∀ average ∈ tick.report,
        average * inSeconds (tick.now - Tick.lastReport start before) = pending before + 1)
      (countAll start nows).1 := by
  induction nows using List.reverseRecOn with
  | nil => exact each_nil
  | append_singleton nows now ih =>
    rw [countAll_concat] at hcount ⊢
    obtain ⟨hbefore, hlast⟩ := each_concat.1 hcount
    refine each_concat.2 ⟨ih hbefore, fun average haverage => ?_⟩
    have htallies := tallies_countAll (α := Rat) start nows
    have heq := htallies.average_eq hlast haverage
    have hdue := (htallies.isSome_tick now).1 (Option.isSome_of_mem haverage)
    have hle : Tick.lastReport start (countAll start nows).1 ≤ now :=
      (Int.le_add_of_nonneg_right (Int.natCast_nonneg _)).trans hdue
    have htime : (1 : Rat) ≤ inSeconds (now - Tick.lastReport start (countAll start nows).1) :=
      one_le_inSeconds (Int.le_sub_left_of_add_le hdue)
    rw [Instant.seconds_since hle] at heq
    show average * inSeconds (now - Tick.lastReport start (countAll start nows).1) = _
    rw [heq]
    show ((pending _ + 1 : Nat) : Rat) / _ * _ = _
    rw [div_mul_cancel₀ _ (by linarith)]
    push_cast
    rfl

end Rate

end Pacing

/-! ## The title of a window -/

def Call.title? {α Raw Frame : Type} : Call α Raw Frame → Option String
  | .setTitle title => some title
  | _ => none

/-- The titles that were written. -/
def Call.titles {α Raw Frame : Type} (calls : List (Call α Raw Frame)) : List String :=
  calls.filterMap Call.title?

section Titles

variable {α Raw Frame : Type} {kinds : List Call.Kind} {calls calls' : List (Call α Raw Frame)}

theorem Call.titles_append : titles (calls ++ calls') = titles calls ++ titles calls' :=
  List.filterMap_append

theorem OfKinds.titles_eq_nil (h : OfKinds kinds calls) (hkinds : .titling ∉ kinds) :
    Call.titles calls = [] := by
  refine List.filterMap_eq_nil_iff.2 fun call hcall => ?_
  have hkind := h call hcall
  cases call with
  | setTitle title => exact absurd hkind hkinds
  | _ => rfl

end Titles

namespace Window

open Pacing Recorded

variable {W α β Raw Frame : Type} {d : Devices W α Raw Frame}
  {s s' : RecordedWindow W α β Raw Frame} {op : Operation (Recorded W α Raw Frame)}

theorem Undisturbed.titles (h : Undisturbed s s') :
    Call.titles s'.world.calls = Call.titles s.world.calls := by
  obtain ⟨calls, hcalls, hkinds⟩ := h.calls
  rw [hcalls, Call.titles_append, hkinds.titles_eq_nil (by decide), List.append_nil]

/-- What counting frames goes by. -/
def tallied (s : Window W α β) : String × Rate := (s.config.name, s.rate)

variable [Scalar α]

/-- The title is written if a report is due. -/
theorem exec_countFrame_eq (s : RecordedWindow W α β Raw Frame) {report : Option α} {rate : Rate}
    (h : s.rate.tick (d.clock.now s.world.world) = (report, rate)) :
    ∃ s', exec (countFrame d.recorded) s = (.ok (), s') ∧ s'.rate = rate ∧
      s'.world.calls =
        s.world.calls ++ (report.map (.setTitle <| rateTitle s.config.name ·)).toList := by
  have htick : s.rate.tick (d.recorded.clock.now s.world) = (report, rate) := h
  rw [countFrame, exec_bind_of_ok (exec_get s)]
  dsimp only
  rw [htick]
  rcases report with _ | average
  · exact ⟨_, rfl, rfl, (List.append_nil _).symm⟩
  · exact ⟨_, rfl, rfl, rfl⟩

variable [Narrowing α β]

theorem deaf_tallied : Deaf d.recorded (tallied : RecordedWindow W α β Raw Frame → _) :=
  ⟨fun _ => rfl, fun _ => rfl, fun _ => rfl, fun _ _ => rfl, fun _ _ => rfl, fun _ _ _ => rfl,
    fun _ _ => rfl⟩

/-- When a show counts its frame: what the clock reads once the frame was presented, the events were
pumped and the frame was paced. A show that fails to present or to pump counts nothing, and nothing
else does. -/
def countedAt? (d : Devices W α Raw Frame) : Operation W → Window W α β → Option Instant
  | .showFrame, s =>
    match exec (do Operation.showFrame.lead d; pump d) s with
    | (.ok (), s) => some (d.clock.now (exec (pace d) s).2.world)
    | (.error _, _) => none
  | _, _ => none

/-- The frame that an operation counts, if it does, with the title that was written meanwhile. -/
def counted? (d : Devices W α Raw Frame) (op : Operation (Recorded W α Raw Frame))
    (s s' : RecordedWindow W α β Raw Frame) : Option (Tick String) :=
  (countedAt? d.recorded op s).map fun now =>
    ⟨now, (Call.titles (s'.world.calls.drop s.world.calls.length)).head?⟩

variable [Scalar β]

omit [Narrowing α β] in
/-- After its pump a show paces the frame, reads the clock, and counts the frame. -/
theorem exec_turnFrame_counts (s : RecordedWindow W α β Raw Frame) {res : Except Halt Unit}
    (h : exec (Operation.turnFrame d.recorded) s = (res, s')) :
    ∃ s₁ calls, exec (pace d.recorded) s = (.ok (), s₁) ∧
      s'.rate = (s.rate.tick (d.clock.now s₁.world.world) : Option α × Rate).2 ∧
      s'.world.calls = s.world.calls ++ calls ∧
      Call.titles calls = ((s.rate.tick (d.clock.now s₁.world.world)).1.map
        (rateTitle (α := α) s.config.name)).toList := by
  obtain ⟨hkeep, paced, hpaced, hpacing⟩ :=
    makes_pace (d := d) (f := tallied) (fun _ _ => rfl) (fun _ _ => rfl) s
  rcases hpace : exec (pace d.recorded) s with ⟨e | ⟨⟩, s₁⟩
  · cases hpace
  rw [hpace] at hkeep hpaced
  obtain ⟨hname, hrate⟩ := Prod.mk.inj hkeep
  rcases htick : (s.rate.tick (d.clock.now s₁.world.world) : Option α × Rate) with ⟨report, rate⟩
  obtain ⟨s₂, hcount, hrate', hwritten⟩ := exec_countFrame_eq (d := d) s₁ (hrate ▸ htick)
  obtain ⟨w, hrest, hturn⟩ := exec_turnFrame_recorded (d := d) s s₂
    ((exec_bind_of_ok hpace _).trans hcount) rfl
  rw [hturn] at h
  cases h
  have hrecord := hrest.record
  rw [hwritten, hpaced.record, List.append_assoc, List.append_assoc] at hrecord
  refine ⟨s₁, _, rfl, ?_, hrecord, ?_⟩
  · rw [htick]
    exact hrate'
  · rw [Call.titles_append, Call.titles_append, hpacing.titles_eq_nil (by decide),
      (ofKinds_turning _ _ _ _).titles_eq_nil (by decide), List.append_nil, htick, hname]
    cases report <;> rfl

/-- An operation counts a frame and writes the title if a report is due, or leaves both alone. -/
theorem exec_perform_counts (hs : s.Wired) (hop : op.Spares Recorded.calls)
    {res : Except Halt (Answer α β)} (h : exec (op.perform d.recorded) s = (res, s')) :
    (countedAt? d.recorded op s = none ∧ s'.rate = s.rate ∧
        Call.titles s'.world.calls = Call.titles s.world.calls) ∨
      ∃ now calls, countedAt? d.recorded op s = some now ∧
        s'.rate = (s.rate.tick now : Option α × Rate).2 ∧
        s'.world.calls = s.world.calls ++ calls ∧
        Call.titles calls =
          ((s.rate.tick now).1.map (rateTitle (α := α) s.config.name)).toList := by
  -- what fails, and what is not a show, counts nothing and is quiet about the title
  have hquiet (hnone : countedAt? d.recorded op s = none)
      (hfails : op = .showFrame → res.isOk = false) :
      countedAt? d.recorded op s = none ∧ s'.rate = s.rate ∧
        Call.titles s'.world.calls = Call.titles s.world.calls := by
    obtain ⟨hundisturbed, -⟩ := exec_perform_undisturbed hs hop h hfails
    exact ⟨hnone, hundisturbed.rate, hundisturbed.titles⟩
  by_cases hshow : op = .showFrame
  · subst hshow
    cases Operation.pumping rfl h with
    | refused hlead =>
      refine .inl (hquiet ?_ fun _ => rfl)
      simp only [countedAt?, exec_bind_of_error hlead]
    | broken hlead hpump =>
      refine .inl (hquiet ?_ fun _ => rfl)
      simp only [countedAt?, exec_bind_of_ok hlead, hpump]
    | @finished s₁ s₂ _ _ hlead hpump htail =>
      obtain ⟨hkeep, drawn, hdrawn, hdrawing⟩ := (Operation.makes_lead (d := d) (f := tallied)
        (fun _ _ => rfl) (fun _ _ => rfl) _).of_exec hlead
      obtain ⟨hkeep', pumped, hpumped, hpumping⟩ := pump_makes deaf_tallied (hs.lead hlead) hpump
      obtain ⟨hname, hrate⟩ := Prod.mk.inj (hkeep'.trans hkeep)
      rcases hturn : exec (Operation.turnFrame d.recorded) s₂ with ⟨outcome, s₃⟩
      obtain ⟨s₄, calls, hpace, htick, hcalls, htitles⟩ := exec_turnFrame_counts s₂ hturn
      obtain rfl : s' = s₃ := by
        rw [Operation.tail, exec_bind, hturn] at htail
        cases outcome <;> cases htail <;> rfl
      rw [hrate] at htick htitles
      rw [hname] at htitles
      refine .inr ⟨_, drawn ++ pumped ++ calls, ?_, htick, ?_, ?_⟩
      · simp only [countedAt?, exec_bind_of_ok hlead, hpump, hpace]
        rfl
      · rw [hcalls, hpumped.record, hdrawn.record, List.append_assoc, List.append_assoc,
          List.append_assoc]
      · rw [Call.titles_append, Call.titles_append, hdrawing.titles_eq_nil (by decide),
          hpumping.titles_eq_nil (by decide), htitles]
        rfl
  · refine .inl (hquiet ?_ fun heq => absurd heq hshow)
    cases op with
    | showFrame => exact absurd rfl hshow
    | _ => rfl

/-- A window that was opened and used, with the frames that it has counted. -/
inductive Shown (d : Devices W α Raw Frame) (config : Config) (world : W) :
    List (Tick String) → RecordedWindow W α β Raw Frame → Prop where
  | opened {s : RecordedWindow W α β Raw Frame} :
      openWith d.recorded config ⟨world, []⟩ = (.ok (), s) → Shown d config world [] s
  | next {log} {s s' : RecordedWindow W α β Raw Frame} (op : Operation (Recorded W α Raw Frame))
      (a : Except WindowError (Answer α β)) : Shown d config world log s →
      op.Spares Recorded.calls → exec (op.perform d.recorded) s = (Except.mapError .failed a, s') →
      Shown d config world (log ++ (counted? d op s s').toList) s'

namespace Shown

variable {config : Config} {world : W} {log : List (Tick String)}

theorem reached (h : Shown d config world log s) : Reached d.recorded config ⟨world, []⟩ s := by
  induction h with
  | opened hopen => exact .opened hopen
  | next op a _ _ hexec ih => exact .next op a ih hexec

theorem name_eq (h : Shown d config world log s) : s.config.name = config.name := by
  obtain ⟨turns, hturns⟩ := h.reached.course
  rw [hturns.config_eq]

end Shown

/-- Nothing is counted and no title is written before a window is open. -/
theorem openWith_counts {config : Config} {world : W}
    (h : openWith d.recorded config ⟨world, []⟩ = (.ok (), s)) :
    s.rate = .start (d.clock.now world) ∧ Call.titles s.world.calls = [] := by
  constructor
  · obtain ⟨-, ds, s₁, hends, hprepare⟩ := openWith_ends h
    have hkeep : tallied s = tallied s₁ :=
      (keeps_prepareForNextFrame d.recorded ⟨fun _ _ => rfl, fun _ _ => rfl⟩).eq hprepare
    exact congrArg Prod.snd (hkeep.trans (hends.keeps deaf_tallied))
  · obtain ⟨calls, hadds, hkinds⟩ := openWith_makes h
    rw [hadds.record, List.nil_append, hkinds.titles_eq_nil (by decide)]

/-- What a window knows of the frames that it has counted, and what it has told of them. -/
theorem Shown.tallies {config : Config} {world : W} {log : List (Tick String)}
    (h : Shown d config world log s) :
    s.rate.Tallies (d.clock.now world) log ∧
      Call.titles s.world.calls = log.filterMap Tick.report ∧
      Tick.ReportsBySeconds (d.clock.now world) log ∧
      (Tick.Countable log → Tick.Each (fun before tick => ∀ title ∈ tick.report, title =
        rateTitle config.name (Scalar.ofNat (Tick.pending before + 1) /
          Duration.seconds (Instant.since tick.now
            (Tick.lastReport (d.clock.now world) before)) : α)) log) := by
  induction h with
  | opened hopen =>
    obtain ⟨hrate, htitles⟩ := openWith_counts hopen
    rw [hrate]
    exact ⟨Rate.tallies_start _, htitles, Tick.each_nil, fun _ => Tick.each_nil⟩
  | @next log s s' op a h hop hexec ih =>
    obtain ⟨htallies, htitles, hseconds, haverages⟩ := ih
    rcases exec_perform_counts h.reached.wired hop hexec with
      ⟨hnone, hrate, hsame⟩ | ⟨now, calls, hnow, hrate, hcalls, hwritten⟩
    · have hlog : log ++ (counted? d op s s').toList = log := by
        rw [counted?, hnone]
        exact List.append_nil log
      rw [hlog, hrate, hsame]
      exact ⟨htallies, htitles, hseconds, haverages⟩
    · rcases htick : (s.rate.tick now : Option α × Rate) with ⟨report, rate⟩
      rw [htick] at hrate hwritten
      have hlog : log ++ (counted? d op s s').toList =
          log ++ [⟨now, report.map (rateTitle s.config.name)⟩] := by
        rw [counted?, hnow, hcalls, List.drop_left, hwritten]
        cases report <;> rfl
      have hreport : (report.map (rateTitle s.config.name)).isSome =
          (s.rate.tick now : Option α × Rate).1.isSome := by
        rw [htick, Option.isSome_map]
      rw [hlog, hrate, hcalls]
      refine ⟨?_, ?_, ?_, fun hcount => ?_⟩
      · have hnext := htallies.tick ⟨now, report.map (rateTitle s.config.name)⟩ hreport
        rwa [htick] at hnext
      · rw [Call.titles_append, htitles, hwritten, List.filterMap_append]
        cases report <;> rfl
      · refine Tick.each_concat.2 ⟨hseconds, ?_⟩
        rw [hreport]
        exact htallies.isSome_tick now
      · obtain ⟨hbefore, hlast⟩ := Tick.each_concat.1 hcount
        refine Tick.each_concat.2 ⟨haverages hbefore, fun title htitle => ?_⟩
        obtain ⟨average, haverage, rfl⟩ := Option.map_eq_some_iff.1 htitle
        have haverage' : (s.rate.tick now : Option α × Rate).1 = some average := by
          rw [htick]
          exact haverage
        rw [h.name_eq, htallies.average_eq hlast haverage']

/-- Frames are counted at any instants, also at such that go back, with fewer of them between two
reports than 32 bits can count. Then a frame reports exactly if a second or more has passed since
the last report. In exact numbers the average times that time is the number of frames since then,
and what the reports account for with the frames since the last one are all frames.

A window counts the frames of the shows that got past presenting and pumping. It writes the title
exactly for those that report, with the average over the shows since the report before. -/
theorem every_frame_accounted (d : Devices W α Raw Frame) (config : Config) (world : W) :
    (∀ start nows log rate, Rate.countAll start nows = ((log, rate) : List (Tick Rat) × Rate) →
      Tick.Countable log →
        log.map Tick.now = nows ∧ Tick.ReportsBySeconds start log ∧
          Tick.Each (fun before tick => ∀ average ∈ tick.report,
            average * inSeconds (tick.now - Tick.lastReport start before) =
              Tick.pending before + 1) log ∧
          Tick.covered start log + rate.frames.toNat = nows.length) ∧
      ∀ log (s : RecordedWindow W α β Raw Frame), Shown d config world log s →
        Call.titles s.world.calls = log.filterMap Tick.report ∧
          Tick.ReportsBySeconds (d.clock.now world) log ∧
          (Tick.Countable log → Tick.Each (fun before tick => ∀ title ∈ tick.report, title =
            rateTitle config.name (Scalar.ofNat (Tick.pending before + 1) /
              Duration.seconds (Instant.since tick.now
                (Tick.lastReport (d.clock.now world) before)) : α)) log) := by
  refine ⟨fun start nows log rate hlog hcount => ?_, fun log s hshown => hshown.tallies.2⟩
  have htallies := Rate.tallies_countAll (α := Rat) start nows
  have hnows := Rate.map_now_countAll (α := Rat) start nows
  have hseconds := Rate.reportsBySeconds_countAll (α := Rat) start nows
  have haverages := Rate.averages_countAll start nows
  rw [hlog] at htallies hnows hseconds haverages
  refine ⟨hnows, hseconds, haverages hcount, ?_⟩
  have hpending : rate.frames.toNat = Tick.pending log := by
    rw [htallies.frames]
    exact UInt32.toNat_ofNat_of_lt' hcount.pending_lt
  rw [hpending, Tick.covered_add_pending (haverages hcount), ← hnows, List.length_map]

/-- Instants of which the second lies before the first. -/
def restlessNows : List Instant := [400000000, 300000000, 1500000000, 1600000000]

/-- A second passes. -/
def passSecond (w : Recorded (Script.Stage Rat Unit) Rat Unit Nat) :
    Recorded (Script.Stage Rat Unit) Rat Unit Nat :=
  { w with world := { w.world with clock := w.world.clock.advance 1000000000 } }

def unratedWindow : RecordedWindow (Script.Stage Rat Unit) Rat Rat Unit Nat :=
  (openWith Script.devices.recorded {} ⟨plainStage, []⟩).2

/-- That window after a first show. -/
def countedWindow : RecordedWindow (Script.Stage Rat Unit) Rat Rat Unit Nat :=
  (exec (Operation.showFrame.perform Script.devices.recorded) unratedWindow).2

/-- Then a show fails. -/
def failedWindow : RecordedWindow (Script.Stage Rat Unit) Rat Rat Unit Nat :=
  (exec (Operation.showFrame.perform Script.devices.recorded)
    (countedWindow.inWorld (loseSurface countedWindow.world))).2

/-- Then a second passes, and the next show reports. -/
def ratedWindow : RecordedWindow (Script.Stage Rat Unit) Rat Rat Unit Nat :=
  (exec (Operation.showFrame.perform Script.devices.recorded)
    (failedWindow.inWorld (passSecond failedWindow.world))).2

/-- The frames that it has counted. -/
def ratedLog : List (Tick String) := [⟨1000000, none⟩, ⟨1001000000, some "Window  2.00 FPS"⟩]

theorem shown_rated : Shown Script.devices {} plainStage ratedLog ratedWindow := by
  have h₀ : Shown Script.devices {} plainStage [] unratedWindow := .opened rfl
  obtain ⟨a₁, hshow⟩ : ∃ a, exec (Operation.showFrame.perform Script.devices.recorded)
    unratedWindow = (.ok a, countedWindow) := exists_eq_ok (by decide +kernel)
  have h₁ := h₀.next .showFrame (.ok a₁) trivial hshow
  have h₂ := h₁.next (.outside loseSurface) (.ok .done) (fun _ => rfl)
    (show exec _ _ = (_, countedWindow.inWorld (loseSurface countedWindow.world)) from rfl)
  obtain ⟨e, hfail⟩ : ∃ e, exec (Operation.showFrame.perform Script.devices.recorded)
    (countedWindow.inWorld (loseSurface countedWindow.world)) =
      (.error (.failed e), failedWindow) := exists_eq_failed (by decide +kernel)
  have h₃ := h₂.next .showFrame (.error e) trivial hfail
  have h₄ := h₃.next (.outside passSecond) (.ok .done) (fun _ => rfl)
    (show exec _ _ = (_, failedWindow.inWorld (passSecond failedWindow.world)) from rfl)
  obtain ⟨a₅, hreport⟩ : ∃ a, exec (Operation.showFrame.perform Script.devices.recorded)
    (failedWindow.inWorld (passSecond failedWindow.world)) = (.ok a, ratedWindow) :=
      exists_eq_ok (by decide +kernel)
  have h₅ := h₄.next .showFrame (.ok a₅) trivial hreport
  convert h₅ using 1
  decide +kernel

/-- Three frames are reported and one is left; and of a window that fails to show once, the title
tells of the other two shows. -/
theorem every_frame_accounted_twice :
    (∃ log rate, Rate.countAll 0 restlessNows = ((log, rate) : List (Tick Rat) × Rate) ∧
        log.filterMap Tick.report = [2] ∧ Tick.covered 0 log + rate.frames.toNat = 4) ∧
      Call.titles ratedWindow.world.calls = ["Window  2.00 FPS"] ∧
      "Window  2.00 FPS" =
        rateTitle "Window" (Scalar.ofNat 2 / Duration.seconds 1001000000 : Rat) := by
  obtain ⟨haverages, htitles⟩ := every_frame_accounted (β := Rat)
    (Script.devices : Devices (Script.Stage Rat Unit) Rat Unit Nat) {} plainStage
  rcases hlog : (Rate.countAll 0 restlessNows : List (Tick Rat) × Rate) with ⟨log, rate⟩
  have hreports : (Rate.countAll 0 restlessNows : List (Tick Rat) × Rate).1.filterMap
    Tick.report = [2] := by decide +kernel
  have hnows := Rate.map_now_countAll (α := Rat) 0 restlessNows
  rw [hlog] at hreports hnows
  have hlength : log.length = 4 := by
    rw [← List.length_map (f := Tick.now), hnows]
    rfl
  obtain ⟨-, -, -, haccounted⟩ :=
    haverages 0 restlessNows log rate hlog (Tick.countable_of_length (by rw [hlength]; decide))
  obtain ⟨hwritten, -, htold⟩ := htitles ratedLog ratedWindow shown_rated
  exact ⟨⟨log, rate, rfl, hreports, haccounted⟩, hwritten,
    htold (Tick.countable_of_length (by decide)) [⟨1000000, none⟩] _ (List.prefix_refl _) _ rfl⟩

end Window

end WindowHost
