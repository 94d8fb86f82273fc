import Mathlib.Data.List.Infix
import Mathlib.Logic.Function.Iterate

/-! Paths, and the places they lead to.

A path is walked name by name, and `..` takes the innermost name away. So a path that is
joined to a directory leads to the same place as its own resolution, begun there: as far up
as that climbs, and then along the names it leaves.
-/

set_option autoImplicit false

namespace Paths

abbrev Name := List Char

/-- Where a place is counted from: the root, or so many directories above the working one. -/
inductive Base where
  | root
  | above (count : Nat)
  deriving DecidableEq, Repr

/-- A place with its names, innermost first. -/
structure Place where
  base : Base
  names : List Name
  deriving DecidableEq, Repr

/-- The names between the slashes; empty ones and `.` do not count. -/
def partsOf (chars : List Char) : List Name := (chars.splitOn '/').filter fun part => part ≠ [] ∧ part ≠ ['.']

def parts (path : String) : List Name := partsOf path.toList

def isAbsolute (path : String) : Prop := path.toList.head? = some '/'

instance (path : String) : Decidable (isAbsolute path) := inferInstanceAs (Decidable (_ = _))

/-- One directory up; there is nothing above the root. -/
def Place.up : Place → Place
  | ⟨base, _ :: rest⟩ => ⟨base, rest⟩
  | ⟨.root, []⟩ => ⟨.root, []⟩
  | ⟨.above count, []⟩ => ⟨.above (count + 1), []⟩

def Place.step (place : Place) (part : Name) : Place :=
  if part = ['.', '.'] then place.up else ⟨place.base, part :: place.names⟩

def Place.walk (place : Place) (parts : List Name) : Place := parts.foldl Place.step place

def Place.working : Place := ⟨.above 0, []⟩

def resolve (path : String) : Place :=
  Place.walk (if isAbsolute path then ⟨.root, []⟩ else .working) (parts path)

/-- The place is strictly below the directory. -/
def Place.Inside (dir place : Place) : Prop :=
  place.base = dir.base ∧ ∃ below, below ≠ [] ∧ place.names = below ++ dir.names

/-- An absolute path replaces the base. -/
def join (base part : String) : String :=
  if isAbsolute part then part
  else if base.toList.getLast?.all (· = '/') then base ++ part
  else base ++ "/" ++ part

/-- The directory holds a path of the given resolution: an absolute one begins with its
names, and a relative one goes down again the names that it climbs over. -/
def Place.Holds (dir : Place) : Place → Prop
  | ⟨.root, names⟩ => dir.base = .root ∧ dir.names <:+ names
  | ⟨.above count, names⟩ => dir.names.take count <:+ names ∧ (count ≤ dir.names.length ∨ dir.base = .root)

instance (dir own : Place) : Decidable (dir.Holds own) :=
  match own with
  | ⟨.root, _⟩ => inferInstanceAs (Decidable (_ ∧ _))
  | ⟨.above _, _⟩ => inferInstanceAs (Decidable (_ ∧ _))

section Walks

theorem walk_append (place : Place) (front back : List Name) :
    place.walk (front ++ back) = (place.walk front).walk back := List.foldl_append

theorem walk_concat (place : Place) (path : List Name) (part : Name) :
    place.walk (path ++ [part]) = (place.walk path).step part := by
  rw [walk_append]
  rfl

theorem up_iterate (count : Nat) (place : Place) :
    Place.up^[count] place = ⟨match place.base with
      | .root => .root
      | .above already => .above (already + (count - place.names.length)), place.names.drop count⟩ := by
  induction count generalizing place with
  | zero =>
    obtain ⟨_ | already, names⟩ := place <;> simp
  | succ count ih =>
    rw [Function.iterate_succ_apply, ih]
    obtain ⟨_ | already, _ | ⟨name, rest⟩⟩ := place
    · simp [Place.up]
    · simp [Place.up]
    · simp [Place.up]
      omega
    · simp [Place.up]

/-- As far up as a relative path climbs, and along the names it leaves. -/
def Place.follow (place : Place) (count : Nat) (names : List Name) : Place :=
  ⟨(Place.up^[count] place).base, names ++ (Place.up^[count] place).names⟩

/-- A relative path leads from anywhere to where its own resolution does. -/
theorem walk_eq_follow (place : Place) (path : List Name) :
    ∃ count names, Place.working.walk path = ⟨.above count, names⟩ ∧ place.walk path = place.follow count names := by
  induction path using List.reverseRecOn with
  | nil => exact ⟨0, [], rfl, rfl⟩
  | append_singleton path part ih =>
    obtain ⟨count, names, own, there⟩ := ih
    rw [walk_concat, walk_concat, own, there, Place.step, Place.step]
    -- A `..` takes away a name of the path itself, or climbs one more directory.
    by_cases climbs : part = ['.', '.']
    · rw [if_pos climbs, if_pos climbs]
      cases names with
      | nil =>
        refine ⟨count + 1, [], rfl, ?_⟩
        simp [Place.follow, Function.iterate_succ_apply']
      | cons name names => exact ⟨count, names, rfl, rfl⟩
    · rw [if_neg climbs, if_neg climbs]
      exact ⟨count, part :: names, rfl, rfl⟩

theorem walk_root (names : List Name) (path : List Name) : (Place.walk ⟨.root, names⟩ path).base = .root := by
  induction path generalizing names with
  | nil => rfl
  | cons part path ih =>
    by_cases climbs : part = ['.', '.']
    · cases names with
      | nil => simpa [Place.walk, Place.step, climbs, Place.up] using ih []
      | cons name names => simpa [Place.walk, Place.step, climbs, Place.up] using ih names
    · simpa [Place.walk, Place.step, climbs] using ih (part :: names)

end Walks

section Joins
variable {base part : String}

theorem partsOf_slash (front back : List Char) : partsOf (front ++ '/' :: back) = partsOf front ++ partsOf back := by
  simp only [partsOf, List.splitOn_append_cons_self, List.filter_append]

theorem partsOf_nil : partsOf [] = [] := rfl

/-- A path joined behind a base has the names of both. -/
theorem parts_behind (relative : ¬ isAbsolute part) : parts (join base part) = parts base ++ parts part := by
  rw [join, if_neg relative]
  rcases List.eq_nil_or_concat base.toList with chars | ⟨front, last, chars⟩
  · simp [parts, chars, partsOf_nil]
  · have whole : base.toList = front ++ [last] := by simpa using chars
    by_cases slash : last = '/'
    · have ends : base.toList.getLast?.all (· = '/') = true := by simp [whole, slash]
      rw [if_pos ends, parts, parts, parts, String.toList_append, whole, slash, List.append_assoc, List.singleton_append,
        partsOf_slash, partsOf_slash, partsOf_nil, List.append_nil]
    · have ends : ¬ base.toList.getLast?.all (· = '/') = true := by simp [whole, slash]
      rw [if_neg ends, parts, parts, parts, String.toList_append, String.toList_append, List.append_assoc]
      exact partsOf_slash base.toList part.toList

theorem isAbsolute_behind (relative : ¬ isAbsolute part) : isAbsolute (join base part) ↔ isAbsolute base := by
  rw [join, if_neg relative]
  rcases chars : base.toList with _ | ⟨first, rest⟩
  · simpa [isAbsolute, chars] using relative
  · split <;> simp [isAbsolute, chars]

/-- What a joined path leads to. -/
theorem resolve_join : resolve (join base part) =
    if isAbsolute part then resolve part else (resolve base).walk (parts part) := by
  by_cases absolute : isAbsolute part
  · rw [join, if_pos absolute, if_pos absolute]
  · rw [if_neg absolute, resolve, resolve, parts_behind absolute, walk_append, if_congr (isAbsolute_behind absolute) rfl rfl]

end Joins

section Confinement
variable {dir place : Place}

theorem suffix_cancel {front front' back : List Name} : front ++ back <:+ front' ++ back ↔ front <:+ front' := by
  constructor
  · rintro ⟨more, same⟩
    rw [← List.append_assoc] at same
    exact ⟨more, List.append_cancel_right same⟩
  · rintro ⟨more, rfl⟩
    exact ⟨more, by rw [List.append_assoc]⟩

theorem inside_push {name : Name} :
    dir.Inside ⟨place.base, name :: place.names⟩ ↔ place.base = dir.base ∧ dir.names <:+ place.names := by
  constructor
  · rintro ⟨same, below, some, names⟩
    cases below with
    | nil => exact absurd rfl some
    | cons first below => exact ⟨same, below, (List.cons.inj names).2.symm⟩
  · rintro ⟨same, below, names⟩
    exact ⟨same, name :: below, List.cons_ne_nil name below, congrArg (name :: ·) names.symm⟩

/-- Where a path leads from a directory, against its own resolution. -/
theorem follow_below (count : Nat) (names : List Name) :
    ((dir.follow count names).base = dir.base ∧ dir.names <:+ (dir.follow count names).names) ↔
      dir.names.take count <:+ names ∧ (count ≤ dir.names.length ∨ dir.base = .root) := by
  have suffix : dir.names <:+ names ++ dir.names.drop count ↔ dir.names.take count <:+ names :=
    calc
      dir.names <:+ names ++ dir.names.drop count ↔
          dir.names.take count ++ dir.names.drop count <:+ names ++ dir.names.drop count := by
        rw [List.take_append_drop]
      _ ↔ dir.names.take count <:+ names := suffix_cancel
  rw [Place.follow, up_iterate]
  obtain ⟨_ | already, held⟩ := dir
  · simpa using suffix
  · simp only [Base.above.injEq, suffix]
    constructor
    · rintro ⟨level, below⟩
      exact ⟨below, .inl (by omega)⟩
    · rintro ⟨below, short | rooted⟩
      · exact ⟨by omega, below⟩
      · cases rooted

/-- A file under a path that is joined to a directory lies inside the directory exactly
when the directory holds the path. -/
theorem inside_join_iff {dir path file : String} {name : Name} (relative : ¬ isAbsolute file)
    (plain : parts file = [name]) (down : name ≠ ['.', '.']) :
    (resolve dir).Inside (resolve (join (join dir path) file)) ↔ (resolve dir).Holds (resolve path) := by
  -- The file adds one name to where the path leads.
  have last : resolve (join (join dir path) file) =
      ⟨(resolve (join dir path)).base, name :: (resolve (join dir path)).names⟩ := by
    rw [resolve_join, if_neg relative, plain]
    exact if_neg down
  rw [last, inside_push, resolve_join]
  by_cases absolute : isAbsolute path
  · have rooted : (resolve path).base = .root := by
      rw [resolve, if_pos absolute]
      exact walk_root [] (parts path)
    have alone : resolve path = ⟨.root, (resolve path).names⟩ := by rw [← rooted]
    rw [if_pos absolute, rooted, alone]
    exact and_congr_left fun _ => eq_comm
  · obtain ⟨count, names, own, there⟩ := walk_eq_follow (resolve dir) (parts path)
    have alone : resolve path = ⟨.above count, names⟩ := by
      rw [resolve, if_neg absolute, own]
    rw [if_neg absolute, there, alone, follow_below]
    rfl

/-- The directory holds a path of the given resolution, and the path leads further down. -/
def Place.HoldsBelow (dir own : Place) : Prop :=
  dir.Holds own ∧ match own with
    | ⟨.root, names⟩ => dir.names ≠ names
    | ⟨.above count, names⟩ => dir.names.take count ≠ names

theorem inside_iff : dir.Inside place ↔ (place.base = dir.base ∧ dir.names <:+ place.names) ∧ dir.names ≠ place.names := by
  constructor
  · rintro ⟨same, below, some, names⟩
    refine ⟨⟨same, below, names.symm⟩, fun whole => some ?_⟩
    rw [names] at whole
    exact List.append_left_eq_self.mp whole.symm
  · rintro ⟨⟨same, below, names⟩, further⟩
    refine ⟨same, below, ?_, names.symm⟩
    rintro rfl
    exact further names

/-- A path that is joined to a directory leads into it exactly when the directory holds the
path and the path leads further down. -/
theorem inside_join_below_iff {dir path : String} :
    (resolve dir).Inside (resolve (join dir path)) ↔ (resolve dir).HoldsBelow (resolve path) := by
  rw [inside_iff, resolve_join]
  by_cases absolute : isAbsolute path
  · have rooted : (resolve path).base = .root := by
      rw [resolve, if_pos absolute]
      exact walk_root [] (parts path)
    have alone : resolve path = ⟨.root, (resolve path).names⟩ := by rw [← rooted]
    rw [if_pos absolute, rooted, alone]
    exact and_congr_left fun _ => and_congr_left fun _ => eq_comm
  · obtain ⟨count, names, own, there⟩ := walk_eq_follow (resolve dir) (parts path)
    have alone : resolve path = ⟨.above count, names⟩ := by
      rw [resolve, if_neg absolute, own]
    have whole : (resolve dir).names ≠ ((resolve dir).follow count names).names ↔
        (resolve dir).names.take count ≠ names := by
      have kept : ((resolve dir).follow count names).names = names ++ (resolve dir).names.drop count := by
        rw [Place.follow, up_iterate]
      rw [kept, Ne, Ne, not_iff_not]
      constructor
      · intro same
        exact List.append_cancel_right ((List.take_append_drop count (resolve dir).names).trans same)
      · rintro rfl
        rw [List.take_append_drop]
    rw [if_neg absolute, there, alone, follow_below, whole]
    rfl

end Confinement

section Plain
variable {base name : String}

/-- A name without separators is put behind one. -/
theorem join_behind {last : Char} (ends : base.toList.getLast? = some last) (separated : last ≠ '/')
    (relative : ¬ isAbsolute name) : join base name = base ++ "/" ++ name := by
  rw [join, if_neg relative, ends, if_neg]
  simpa using separated

theorem isAbsolute_plain (plain : '/' ∉ name.toList) : ¬ isAbsolute name := fun first => plain (List.mem_of_mem_head? first)

theorem parts_plain (plain : '/' ∉ name.toList) (named : name.toList ≠ []) (other : name.toList ≠ ['.']) :
    parts name = [name.toList] := by
  have whole : name.toList.splitOn '/' = [name.toList] := List.splitOn_eq_singleton plain
  simp [parts, partsOf, whole, named, other]

theorem resolve_plain (plain : '/' ∉ name.toList) (named : name.toList ≠ []) (other : name.toList ≠ ['.'])
    (down : name.toList ≠ ['.', '.']) : resolve name = ⟨.above 0, [name.toList]⟩ := by
  rw [resolve, if_neg (isAbsolute_plain plain), parts_plain plain named other]
  exact if_neg down

end Plain

end Paths
