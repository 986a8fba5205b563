import Mathlib.Data.String.Basic
import RecordGate.Warehouse.Directory

/-!
# Where plain names lead

Two names of a directory may lead to one file (`Directory.Same`). Plain names do not: in a directory of a tree that has
no directories in it, a short name without zeros and slashes leads to the file that is called so
(`Directory.place?_inTree`).
-/

namespace RecordGate

theorem utf8Len_le (cs : List Char) : String.utf8Len cs ≤ 4 * cs.length := by
  induction cs with
  | nil => exact Nat.le_refl _
  | cons c cs ih =>
    have := c.utf8Size_le_four
    simp only [String.utf8Len_cons, List.length_cons]
    omega

theorem utf8ByteSize_le (s : String) : s.utf8ByteSize ≤ 4 * s.toList.length := by
  have := utf8Len_le s.toList
  rwa [← String.utf8ByteSize_ofList, String.ofList_toList] at this

namespace Directory

/-! ## One file under two names -/

/-- Both names lead to one file. -/
def Same (d : Directory) (name other : String) : Prop := ∃ place, d.place? name = .ok place ∧ d.place? other = .ok place

instance (d : Directory) (name other : String) : Decidable (d.Same name other) :=
  match first : d.place? name, second : d.place? other with
  | .ok p, .ok q => decidable_of_iff (q = p) (by simp [Same, first, second])
  | .error _, _ => .isFalse (by simp [Same, first])
  | .ok _, .error _ => .isFalse (by simp [Same, second])

theorem Same.symm {d : Directory} {name other : String} (h : d.Same name other) : d.Same other name :=
  h.imp fun _ => And.symm

/-- Names of the files that are called so are one name if they lead to one file. -/
theorem Same.eq {d : Directory} {name other : String} (same : d.Same name other) (here : d.place? name = .ok name)
    (there : d.place? other = .ok other) : name = other := by
  obtain ⟨place, first, second⟩ := same
  cases here.symm.trans first
  cases there.symm.trans second
  rfl

/-! ## Plain names -/

/-- A name that a file can have: no step on a way, and neither zeros nor slashes in it. -/
structure IsOrdinary (name : String) : Prop where
  noStep : name ≠ "" ∧ name ≠ "." ∧ name ≠ ".."
  noZero : '\x00' ∉ name.toList
  noSlash : '/' ∉ name.toList
  short : name.utf8ByteSize ≤ 255

instance (name : String) : Decidable (IsOrdinary name) :=
  decidable_of_iff ((name ≠ "" ∧ name ≠ "." ∧ name ≠ "..") ∧ '\x00' ∉ name.toList ∧ '/' ∉ name.toList ∧
      name.utf8ByteSize ≤ 255)
    ⟨fun h => ⟨h.1, h.2.1, h.2.2.1, h.2.2.2⟩, fun h => ⟨h.noStep, h.noZero, h.noSlash, h.short⟩⟩

/-- A name of three to 63 characters is ordinary if there are neither zeros nor slashes in it. -/
theorem isOrdinary_of_length {name : String} (long : 3 ≤ name.toList.length) (short : name.toList.length ≤ 63)
    (noZero : '\x00' ∉ name.toList) (noSlash : '/' ∉ name.toList) : IsOrdinary name := by
  refine ⟨⟨?_, ?_, ?_⟩, noZero, noSlash, ?_⟩
  · rintro rfl
    exact absurd long (by decide)
  · rintro rfl
    exact absurd long (by decide)
  · rintro rfl
    exact absurd long (by decide)
  · have := utf8ByteSize_le name
    omega

theorem namesOfChars_of_noSlash {cs : List Char} (noSlash : '/' ∉ cs) : namesOfChars cs = [cs] := by
  induction cs with
  | nil => rfl
  | cons c cs ih =>
    obtain ⟨first, rest⟩ := not_or.mp (mt List.mem_cons.mpr noSlash)
    rw [namesOfChars, if_neg (Ne.symm first), ih rest]

theorem namesOfChars_append {cs : List Char} (noSlash : '/' ∉ cs) (rest : List Char) :
    namesOfChars (cs ++ '/' :: rest) = cs :: namesOfChars rest := by
  induction cs with
  | nil => exact if_pos rfl
  | cons c cs ih =>
    obtain ⟨first, others⟩ := not_or.mp (mt List.mem_cons.mpr noSlash)
    rw [List.cons_append, namesOfChars, if_neg (Ne.symm first), ih others]

namespace Tree

variable {t : Tree} {way rest : List String} {name : String}

theorem toList_pathOf (way : List String) : (pathOf way).toList = way.flatMap fun name => '/' :: name.toList :=
  String.toList_ofList

theorem pathOf_concat (way : List String) (name : String) : pathOf (way ++ [name]) = pathOf way ++ "/" ++ name := by
  refine String.toList_inj.mp ?_
  rw [String.toList_append, String.toList_append, toList_pathOf, List.flatMap_append, ← toList_pathOf,
    List.append_assoc, List.flatMap_singleton]
  rfl

/-- A path ends with the last name on its way, and not with a slash. -/
theorem getLast?_pathOf (ordinary : ∀ name ∈ way, IsOrdinary name) (some : way ≠ []) :
    (pathOf way).toList.getLast?.all (· = '/') = false := by
  obtain ⟨before, last, rfl⟩ := (List.eq_nil_or_concat' way).resolve_left some
  have own := ordinary last (List.mem_append_right _ List.mem_cons_self)
  obtain ⟨c, final⟩ : ∃ c, last.toList.getLast? = .some c := by
    rw [← Option.isSome_iff_exists, List.getLast?_isSome]
    exact fun none => own.noStep.1 (String.toList_inj.mp none)
  rw [toList_pathOf, List.flatMap_append, List.flatMap_singleton, List.getLast?_append, List.getLast?_cons, final,
    Option.getD_some, Option.some_or, Option.all_some, decide_eq_false_iff_not]
  rintro rfl
  exact own.noSlash (List.mem_of_getLast? final)

/-- The names of a path are those on its way, behind the empty one in front of the first slash. -/
theorem namesOf_pathOf (noSlash : ∀ name ∈ way, '/' ∉ name.toList) :
    namesOf (pathOf way) = "" :: way := by
  have behind (cs : List Char) (free : '/' ∉ cs) (way : List String) (noSlash : ∀ name ∈ way, '/' ∉ name.toList) :
      namesOfChars (cs ++ way.flatMap fun name => '/' :: name.toList) = cs :: way.map String.toList := by
    induction way generalizing cs with
    | nil => exact (congrArg namesOfChars (List.append_nil cs)).trans (namesOfChars_of_noSlash free)
    | cons name way ih =>
      obtain ⟨first, others⟩ := List.forall_mem_cons.mp noSlash
      rw [List.flatMap_cons, List.cons_append, namesOfChars_append free, ih _ first others]
      rfl
  have names := behind [] List.not_mem_nil way noSlash
  rw [List.nil_append, ← toList_pathOf] at names
  rw [namesOf, names, List.map_cons, List.map_map]
  simp

/-- On the way home nothing is in the way. -/
theorem find_home (ordinary : ∀ name ∈ rest, IsOrdinary name) (home : way ++ rest = t.home) (more : List String) :
    t.find way (rest ++ more) = t.find t.home more := by
  induction rest generalizing way with
  | nil =>
    rw [List.append_nil] at home
    rw [home]
    rfl
  | cons name rest ih =>
    obtain ⟨first, others⟩ := List.forall_mem_cons.mp ordinary
    obtain ⟨empty, dot, dots⟩ := first.noStep
    have leads : way ++ [name] ++ rest = t.home := by rw [List.append_assoc, List.singleton_append, home]
    have directory : t.isDirectory (way ++ [name]) = true := by
      rw [isDirectory, ← leads, List.isPrefixOf_iff_prefix.mpr (List.prefix_append ..)]
      rfl
    rw [List.cons_append, find, if_neg (by simp [empty, dot]), if_neg dots, if_neg (Nat.not_lt.mpr first.short),
      if_pos directory]
    exact ih others leads

/-- At home an ordinary name that is no directory is that of a file. -/
theorem find_file (ordinary : IsOrdinary name) (file : t.home ++ [name] ∉ t.others) :
    t.find t.home [name] = .ok name := by
  obtain ⟨empty, dot, dots⟩ := ordinary.noStep
  have noPrefix : (t.home ++ [name]).isPrefixOf t.home = false := by
    refine Bool.eq_false_iff.mpr fun inside => ?_
    have := (List.isPrefixOf_iff_prefix.mp inside).length_le
    rw [List.length_append, List.length_singleton] at this
    omega
  have noDirectory : ¬t.isDirectory (t.home ++ [name]) = true := by
    rw [isDirectory, noPrefix, Bool.false_or]
    simpa using file
  have called : t.placeOf (t.home ++ [name]) = name := by
    rw [placeOf, if_pos (by simp), List.getLast?_concat, Option.getD_some]
  rw [find, if_neg (by simp [empty, dot]), if_neg dots, if_neg (Nat.not_lt.mpr ordinary.short), if_neg noDirectory,
    if_pos List.isEmpty_nil, called]

end Tree

/--
**An ordinary name leads to the file that is called so**, in a directory that has no directories in it and whose path
leaves room for a name.
-/
theorem place?_inTree {home : List String} {others : List (List String)} (some : home ≠ [])
    (way : ∀ name ∈ home, IsOrdinary name) (room : (Tree.pathOf home).utf8ByteSize ≤ 3839)
    (empty : ∀ name, home ++ [name] ∉ others) {name : String} (ordinary : IsOrdinary name) :
    (inTree home others).place? name = .ok name := by
  have all : ∀ other ∈ home ++ [name], IsOrdinary other :=
    List.forall_mem_append.mpr ⟨way, List.forall_mem_singleton.mpr ordinary⟩
  have relative : ¬name.toList.head? = .some '/' := fun first => ordinary.noSlash (List.mem_of_head? first)
  have endless : ¬(Tree.pathOf home).toList.getLast?.all (· = '/') = true :=
    Bool.eq_false_iff.mp (Tree.getLast?_pathOf way some)
  have joined : (inTree home others).join name = Tree.pathOf (home ++ [name]) := by
    rw [join, if_neg relative, Tree.pathOf_concat]
    exact if_neg endless
  have noZero : ¬(Tree.pathOf (home ++ [name])).toList.contains '\x00' = true := by
    simp only [Tree.toList_pathOf, List.contains_iff_mem, List.mem_flatMap, List.mem_cons, not_exists, not_and, not_or]
    exact fun other mem => ⟨by decide, (all other mem).noZero⟩
  have fits : ¬(Tree.pathOf (home ++ [name])).utf8ByteSize ≥ 4096 := by
    have slash : "/".utf8ByteSize = 1 := by decide
    have short := ordinary.short
    rw [Tree.pathOf_concat, String.utf8ByteSize_append, String.utf8ByteSize_append]
    omega
  have names : Directory.namesOf (Tree.pathOf (home ++ [name])) = "" :: (home ++ [name]) :=
    Tree.namesOf_pathOf fun other mem => (all other mem).noSlash
  rw [place?, joined, if_neg noZero]
  change Tree.locate ⟨home, others⟩ _ = _
  rw [Tree.locate, if_neg fits, names, Tree.find, if_pos (.inl rfl), Tree.find_home way rfl,
    Tree.find_file ordinary (empty name)]

end Directory

end RecordGate
