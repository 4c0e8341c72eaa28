/-!
# Prepared item lists by label

A widget that shows a list of items prepares them once and keeps the result in a `Cache` under its
label. `Cache.access` prepares again only when it is given another list, where a list is known by
its place in memory and not by what it holds. `Cache.endFrame` drops what was not used in the frame.
-/

namespace WindowHost.Label

/-- A list of items at a place in memory. -/
structure ItemList where
  address : Nat
  items : List String
  deriving DecidableEq, Repr, Inhabited

/-- What the cache keeps for a label. -/
structure Entry (H : Type) where
  list : ItemList
  handles : H
  /-- Whether the entry was used since the frame began. -/
  touched : Bool
  deriving Repr

/-- A new entry for a list, not used yet. -/
def Entry.build {H : Type} {m : Type → Type} [Monad m] (prepare : List String → m H)
    (list : ItemList) : m (Entry H) := do
  let handles ← prepare list.items
  pure { list, handles, touched := false }

/-- Entries by label, each label once. -/
structure Cache (H : Type) where
  entries : List (String × Entry H) := []
  deriving Repr

namespace Cache

variable {H : Type}

def get? (c : Cache H) (label : String) : Option (Entry H) :=
  (c.entries.find? fun e => e.1 == label).map (·.2)

def contains (c : Cache H) (label : String) : Bool := (c.get? label).isSome

def size (c : Cache H) : Nat := c.entries.length

def isEmpty (c : Cache H) : Bool := c.entries.isEmpty

/-- Puts an entry in the place of the one that the label has, or adds it. -/
def put (c : Cache H) (label : String) (entry : Entry H) : Cache H :=
  if c.contains label then
    ⟨c.entries.map fun e => if e.1 == label then (label, entry) else e⟩
  else ⟨c.entries ++ [(label, entry)]⟩

/-- The handles kept for the label, if they were prepared from this very list. -/
def prepared? (c : Cache H) (label : String) (list : ItemList) : Option H :=
  match c.get? label with
  | some entry => if entry.list.address = list.address then some entry.handles else none
  | none => none

/-- Whether an access to this list under the label has to prepare it. -/
def mustPrepare (c : Cache H) (label : String) (list : ItemList) : Bool :=
  (c.prepared? label list).isNone

/-- The handles of a list under a label, prepared by an action if need be; the entry counts as
used. -/
def accessM {m : Type → Type} [Monad m] (prepare : List String → m H) (label : String)
    (list : ItemList) (c : Cache H) : m (H × Cache H) := do
  let entry ← match c.get? label with
    | some entry =>
      if entry.list.address = list.address then pure entry else Entry.build prepare list
    | none => Entry.build prepare list
  pure (entry.handles, c.put label { entry with touched := true })

/-- The handles of a list under a label, prepared if need be; the entry counts as used. -/
def access (prepare : List String → H) (label : String) (list : ItemList) (c : Cache H) :
    H × Cache H :=
  Id.run (c.accessM (fun items => pure (prepare items)) label list)

/-- The boundary of a frame: entries that were not used go, and all others count as unused. -/
def endFrame (c : Cache H) : Cache H :=
  ⟨(c.entries.filter (·.2.touched)).map fun e => (e.1, { e.2 with touched := false })⟩

end Cache

end WindowHost.Label
