import WindowHost.Label.Cache

/-!
# A cache that does not show

The cache of prepared lists goes by where a list stands in memory. `Memory` holds the lists that a
host program has and those that the cache keeps, and `Memory.Step` is what can happen to them: a
place in memory is given to another list only when nobody holds the list that stood there, and a
list changes in place only under a sole holder. Then two lists in use at one place are the same
(`Memory.Sound`), and every access gives what preparing the list anew would give.
-/

namespace WindowHost.Label

variable {H : Type}

/-! ## Entries -/

namespace Cache

theorem mem_of_get? {c : Cache H} {label : String} {entry : Entry H}
    (h : c.get? label = some entry) : ∃ key, (key, entry) ∈ c.entries := by
  obtain ⟨⟨key, kept⟩, hfind, rfl⟩ := Option.map_eq_some_iff.1 h
  exact ⟨key, List.mem_of_find?_eq_some hfind⟩

theorem mem_put {c : Cache H} {label : String} {entry : Entry H} {e : String × Entry H}
    (h : e ∈ (c.put label entry).entries) : e = (label, entry) ∨ e ∈ c.entries := by
  unfold put at h
  split at h
  · obtain ⟨e', he', heq⟩ := List.mem_map.1 h
    split at heq
    · exact .inl heq.symm
    · exact .inr (heq ▸ he')
  · rcases List.mem_append.1 h with h | h
    · exact .inr h
    · exact .inl (List.mem_singleton.1 h)

/-- What stays at the boundary of a frame is kept as it was, but for its mark. -/
theorem mem_endFrame {c : Cache H} {e : String × Entry H} (h : e ∈ c.endFrame.entries) :
    ∃ e' ∈ c.entries, e.2.list = e'.2.list ∧ e.2.handles = e'.2.handles := by
  obtain ⟨e', he', rfl⟩ := List.mem_map.1 h
  exact ⟨e', (List.mem_filter.1 he').1, rfl, rfl⟩

/-- An access keeps what it found under the label, or what it has prepared from the list. -/
theorem access_eq (prepare : List String → H) (label : String) (list : ItemList) (c : Cache H) :
    (∃ key entry, (key, entry) ∈ c.entries ∧ entry.list.address = list.address ∧
      c.access prepare label list = (entry.handles, c.put label { entry with touched := true })) ∨
    c.access prepare label list =
      (prepare list.items, c.put label ⟨list, prepare list.items, true⟩) := by
  unfold access accessM
  rcases hget : c.get? label with _ | entry
  · exact .inr rfl
  · by_cases hsame : entry.list.address = list.address
    · obtain ⟨key, hkey⟩ := mem_of_get? hget
      exact .inl ⟨key, entry, hkey, hsame, by simp only [if_pos hsame]; rfl⟩
    · exact .inr (by simp only [if_neg hsame]; rfl)

end Cache

/-! ## Memory -/

/-- The lists that a host program holds, each as often as it holds it, and a cache. -/
structure Memory (H : Type) where
  held : List ItemList := []
  cache : Cache H := {}

namespace Memory

/-- The host program or the cache holds the list. -/
def InUse (m : Memory H) (list : ItemList) : Prop :=
  list ∈ m.held ∨ ∃ e ∈ m.cache.entries, e.2.list = list

/-- Nobody holds a list at that place. -/
def Free (m : Memory H) (address : Nat) : Prop := ∀ list, m.InUse list → list.address ≠ address

/-- The host program gives up a list, once. -/
def drop (m : Memory H) (list : ItemList) : Memory H := { m with held := m.held.erase list }

/-- What can happen to lists and to a cache of what `prepare` makes of them. -/
inductive Step (prepare : List String → H) (m : Memory H) : Memory H → Prop where
  | allocated (list) : m.Free list.address → Step prepare m { m with held := list :: m.held }
  | shared {list} : list ∈ m.held → Step prepare m { m with held := list :: m.held }
  | dropped (list) : Step prepare m (m.drop list)
  /-- Under its sole holder a list is changed in place. -/
  | changed {list} (items) : list ∈ m.held → (m.drop list).Free list.address →
      Step prepare m { m.drop list with held := ⟨list.address, items⟩ :: (m.drop list).held }
  | accessed {list} (label) : list ∈ m.held →
      Step prepare m { m with cache := (m.cache.access prepare label list).2 }
  | frameEnded : Step prepare m { m with cache := m.cache.endFrame }

/-- What lists and a cache can come to, from nothing. -/
inductive Reached (prepare : List String → H) : Memory H → Prop where
  | start : Reached prepare {}
  | next {m m'} : Reached prepare m → Step prepare m m' → Reached prepare m'

/-- A place in memory tells a list in use, and the cache keeps what was made of its lists. -/
structure Sound (prepare : List String → H) (m : Memory H) : Prop where
  inUse_eq : ∀ l l', m.InUse l → m.InUse l' → l.address = l'.address → l = l'
  prepared : ∀ e ∈ m.cache.entries, e.2.handles = prepare e.2.list.items

section Sound

variable {prepare : List String → H} {m : Memory H} {list : ItemList}

/-- Whatever takes no list into use and prepares nothing keeps memory sound. -/
theorem Sound.of_inUse (h : m.Sound prepare) {m' : Memory H}
    (huse : ∀ l, m'.InUse l → m.InUse l)
    (hprepared : ∀ e ∈ m'.cache.entries, e.2.handles = prepare e.2.list.items) :
    m'.Sound prepare :=
  ⟨fun l l' hl hl' => h.inUse_eq l l' (huse l hl) (huse l' hl'), hprepared⟩

theorem inUse_drop {l : ItemList} (h : (m.drop list).InUse l) : m.InUse l :=
  h.imp_left List.mem_of_mem_erase

theorem Sound.drop (h : m.Sound prepare) (list : ItemList) : (m.drop list).Sound prepare :=
  h.of_inUse (fun _ hl => inUse_drop hl) h.prepared

/-- A list comes into use at a place that nobody holds. -/
theorem Sound.allocate (h : m.Sound prepare) (list : ItemList) (hfree : m.Free list.address) :
    Sound prepare { m with held := list :: m.held } := by
  -- a list in use is the new one, or it was in use before
  have huse {l : ItemList} (hl : InUse { m with held := list :: m.held } l) :
      l = list ∨ m.InUse l := by
    rcases hl with hl | hl
    · exact (List.mem_cons.1 hl).imp_right .inl
    · exact .inr (.inr hl)
  refine ⟨fun l l' hl hl' haddress => ?_, h.prepared⟩
  rcases huse hl with hnew | hold
  · rcases huse hl' with hnew' | hold'
    · rw [hnew, hnew']
    · exact absurd (hnew ▸ haddress.symm) (hfree l' hold')
  · rcases huse hl' with hnew' | hold'
    · exact absurd (hnew' ▸ haddress) (hfree l hold)
    · exact h.inUse_eq l l' hold hold' haddress

/-- The cache may keep a list under another label, with what was made of it. -/
theorem Sound.put (h : m.Sound prepare) {label : String} (entry : Entry H)
    (huse : m.InUse entry.list) (hprepared : entry.handles = prepare entry.list.items) :
    Sound prepare { m with cache := m.cache.put label entry } := by
  refine h.of_inUse (fun l hl => ?_) fun e he => ?_
  · rcases hl with hl | ⟨e, he, rfl⟩
    · exact .inl hl
    · rcases Cache.mem_put he with rfl | he
      · exact huse
      · exact .inr ⟨e, he, rfl⟩
  · rcases Cache.mem_put he with rfl | he
    · exact hprepared
    · exact h.prepared e he

/-- An entry at the place of a list that the host program holds was made of that list. -/
theorem Sound.handles_eq (h : m.Sound prepare) (hlist : list ∈ m.held) {e : String × Entry H}
    (he : e ∈ m.cache.entries) (haddress : e.2.list.address = list.address) :
    e.2.handles = prepare list.items := by
  have hsame : e.2.list = list :=
    h.inUse_eq _ _ (.inr ⟨e, he, rfl⟩) (.inl hlist) haddress
  rw [h.prepared e he, hsame]

theorem Sound.access (h : m.Sound prepare) (hlist : list ∈ m.held) (label : String) :
    Sound prepare { m with cache := (m.cache.access prepare label list).2 } := by
  rcases m.cache.access_eq prepare label list with ⟨key, entry, he, -, haccess⟩ | haccess
  · rw [haccess]
    exact h.put { entry with touched := true } (.inr ⟨_, he, rfl⟩) (h.prepared _ he)
  · rw [haccess]
    exact h.put _ (.inl hlist) rfl

theorem Sound.endFrame (h : m.Sound prepare) :
    Sound prepare { m with cache := m.cache.endFrame } := by
  refine h.of_inUse (fun l hl => ?_) fun e he => ?_
  · rcases hl with hl | ⟨e, he, rfl⟩
    · exact .inl hl
    · obtain ⟨e', he', hlist, -⟩ := Cache.mem_endFrame he
      exact .inr ⟨e', he', hlist.symm⟩
  · obtain ⟨e', he', hlist, hhandles⟩ := Cache.mem_endFrame he
    rw [hhandles, hlist]
    exact h.prepared e' he'

theorem Sound.step (h : m.Sound prepare) {m' : Memory H} (hstep : Step prepare m m') :
    m'.Sound prepare := by
  cases hstep with
  | allocated list hfree => exact h.allocate list hfree
  | shared hlist =>
    refine h.of_inUse (fun l hl => ?_) h.prepared
    rcases hl with hl | hl
    · rcases List.mem_cons.1 hl with rfl | hl
      · exact .inl hlist
      · exact .inl hl
    · exact .inr hl
  | dropped list => exact h.drop list
  | @changed list items _ hfree => exact (h.drop list).allocate ⟨list.address, items⟩ hfree
  | accessed label hlist => exact h.access hlist label
  | frameEnded => exact h.endFrame

theorem Reached.sound (h : Reached prepare m) : m.Sound prepare := by
  induction h with
  | start =>
    refine ⟨fun l l' hl => ?_, fun e he => absurd he List.not_mem_nil⟩
    rcases hl with hl | ⟨e, he, -⟩
    · exact absurd hl List.not_mem_nil
    · exact absurd he List.not_mem_nil
  | next _ hstep ih => exact ih.step hstep

end Sound

/-- Whatever has happened to lists and cache, an access to a list gives what preparing it anew would
give. -/
theorem access_eq_prepare {prepare : List String → H} {m : Memory H} (h : Reached prepare m)
    {list : ItemList} (hlist : list ∈ m.held) (label : String) :
    (m.cache.access prepare label list).1 = prepare list.items := by
  rcases m.cache.access_eq prepare label list with ⟨key, entry, he, haddress, haccess⟩ | haccess
  · rw [haccess]
    exact h.sound.handles_eq hlist he haddress
  · rw [haccess]

/-- The list that stands at the place of another one later. -/
def firstList : ItemList := ⟨7, ["a", "b"]⟩

def secondList : ItemList := ⟨7, ["c"]⟩

/-- A list that was given up is in the cache until the second frame after its last use; then another
list stands at its place, under the same label. -/
theorem access_eq_prepare_reused :
    let kept := (Cache.access List.length "mode" firstList {}).2
    let m : Memory Nat := { held := [secondList], cache := kept.endFrame.endFrame }
    kept.endFrame.contains "mode" = true ∧ secondList ∈ m.held ∧
      (m.cache.access List.length "mode" secondList).1 = secondList.items.length := by
  intro kept m
  have hused : Reached List.length { held := [firstList], cache := kept } :=
    .next (.next .start (.allocated firstList nofun)) (.accessed "mode" (.head _))
  have hleft : Reached List.length (m.drop secondList) :=
    .next (.next (.next hused (.dropped firstList)) .frameEnded) .frameEnded
  have hreused : Reached List.length m := .next hleft (.allocated secondList nofun)
  exact ⟨rfl, .head _, access_eq_prepare hreused (.head _) "mode"⟩

end Memory

end WindowHost.Label
