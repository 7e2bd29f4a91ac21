/-
This file lists the keys of a bucket page by page, with the keys below a delimiter rolled up.
-/
import PathStore.Bucket
import PathStore.Root

namespace PathStore.Bucket

/-- One entry of a listing: an object, or the keys that begin with a common stem, with the last of them. -/
inductive Group where
  | object (key : String) (stored : StoredObject)
  | rolled (stem last : String)
  deriving DecidableEq, Repr

namespace Group

/-- The last key of an entry. -/
def last : Group → String
  | .object key _ => key
  | .rolled _ last => last

/-- The object of an entry, with its key. -/
def object? : Group → Option (String × StoredObject)
  | .object key stored => some (key, stored)
  | .rolled .. => none

/-- The stem of an entry that stands for rolled-up keys. -/
def stem? : Group → Option String
  | .object .. => none
  | .rolled stem _ => some stem

end Group

/-- The characters through the first occurrence of a delimiter. -/
def throughFirst? (delimiter : List Char) : List Char → Option (List Char)
  | [] => none
  | character :: rest =>
      if delimiter.isPrefixOf (character :: rest) then some delimiter
      else (throughFirst? delimiter rest).map (character :: ·)

/-- The stem under which a key is rolled up; an empty delimiter rolls up none. -/
def commonStem? (stem delimiter key : String) : Option String :=
  if delimiter = "" then none
  else (throughFirst? delimiter.toList (key.toList.drop stem.length)).map fun rest => stem ++ String.ofList rest

/-- The entry of one key alone. -/
def groupOf (stem delimiter : String) (entry : String × StoredObject) : Group :=
  match commonStem? stem delimiter entry.1 with
  | some common => .rolled common entry.1
  | none => .object entry.1 entry.2

/-- The entries after one in front of them, which joins the next if both have the same stem. -/
def joinGroup (group : Group) (groups : List Group) : List Group :=
  match group, groups with
  | .rolled stem _, .rolled next last :: rest =>
      if stem = next then .rolled next last :: rest else group :: .rolled next last :: rest
  | group, groups => group :: groups

/-- All entries for keys in order. -/
def groups (stem delimiter : String) (entries : List (String × StoredObject)) : List Group :=
  entries.foldr (fun entry rest => joinGroup (groupOf stem delimiter entry) rest) []

/-- The objects whose keys begin with a stem and come after a marker. -/
def entriesAfter (bucket : Bucket) (stem marker : String) : List (String × StoredObject) :=
  bucket.entries.filter fun entry => Root.startsWith entry.1 stem && marker < entry.1

/-- The entries of a page and its marker, which is empty on the last page. -/
def page (bucket : Bucket) (stem delimiter marker : String) (limit : Int) : List Group × String :=
  let all := groups stem delimiter (bucket.entriesAfter stem marker)
  let taken := all.take limit.toNat
  (taken, if taken.length < all.length then (taken.getLast?.map Group.last).getD "" else "")

end PathStore.Bucket
