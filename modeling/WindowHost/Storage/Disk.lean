import WindowHost.Error

/-!
# A disk

A `Disk` holds directories and files by their paths. `Disk.write` gives a file new contents, or
tells why there can be no such file.
-/

namespace WindowHost.Storage

/-- Directories, and files with their contents. The root is always there. -/
structure Disk where
  directories : List String := []
  files : List (String × Array UInt8) := []
  deriving Repr

namespace Disk

/-- The directory that a path lies in: the path up to its last slash. -/
def parent (path : String) : String :=
  String.ofList ((path.toList.reverse.dropWhile (· != '/')).drop 1).reverse

def hasDirectory (d : Disk) (path : String) : Bool := path == "" || d.directories.contains path

def read? (d : Disk) (path : String) : Option (Array UInt8) := d.files.lookup path

/-- Writes a file in place of whatever file was there. -/
def write (d : Disk) (path : String) (contents : Array UInt8) : Except IoError Disk :=
  if d.hasDirectory path then .error .isADirectory
  else if d.hasDirectory (parent path) then
    .ok { d with files := (path, contents) :: d.files.filter (·.1 != path) }
  else .error .notFound

/-- What is written to a file is what is read from it. -/
theorem read?_of_write {disk disk' : Disk} {path : String} {contents : Array UInt8}
    (h : disk.write path contents = .ok disk') : disk'.read? path = some contents := by
  unfold write at h
  split at h
  · cases h
  · split at h
    · cases h
      exact List.lookup_cons_self
    · cases h

end Disk

end WindowHost.Storage
