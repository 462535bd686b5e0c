import GatewayDesk.Proofs.Files.Path

/-!
# What is above a path

The last piece of a path that says something is its file name; what comes after it is idle. The
directory above a path is reached by the first of the path's own steps.

* `Names`: the file name of a path, and the pieces before it.
* `Names.withSuffix`: with another suffix a path leads to another name in the same directory.
* `steps_of_parent?`: the steps of the directory above a path.
-/

namespace GatewayDesk

namespace Path

variable {path : String} {front : List (List Char)} {name : List Char}

theorem slash_notMem_pieces (path : String) : ∀ p ∈ pieces path, '/' ∉ p :=
  slash_notMem_split path.toList

/-! ## Idle pieces -/

/-- Trimmed pieces are followed by idle ones. -/
theorem trimmed_append (ps : List (List Char)) :
    ∃ idle, ps = trimmed ps ++ idle ∧ ∀ p ∈ idle, isIdle p = true := by
  cases ps with
  | nil => exact ⟨[], rfl, by simp⟩
  | cons p rest =>
    refine ⟨(rest.reverse.takeWhile isIdle).reverse, ?_, fun q hq => ?_⟩
    · rw [trimmed, List.cons_append, ← List.reverse_append, List.takeWhile_append_dropWhile,
        List.reverse_reverse]
    · exact List.mem_takeWhile_imp (List.mem_reverse.1 hq)

/-- The last of trimmed pieces is not idle, but where it is the first. -/
theorem trimmed_concat {ps rest : List (List Char)} {p last : List Char}
    (h : trimmed ps = p :: rest ++ [last]) : isIdle last = false := by
  cases ps with
  | nil => cases h
  | cons q more =>
    rw [trimmed, List.cons_append] at h
    have tail := congrArg List.reverse (List.cons.inj h).2
    rw [List.reverse_reverse, List.reverse_append, List.reverse_singleton,
      List.singleton_append] at tail
    have := List.head?_dropWhile_not isIdle more.reverse
    rw [tail] at this
    simpa using this

/-- Whether a path leads through some pieces to a name, after which come idle pieces only. -/
structure Names (path : String) (front : List (List Char)) (name : List Char) : Prop where
  whole : ∃ idle, Path.pieces path = front ++ name :: idle ∧ ∀ p ∈ idle, isIdle p = true
  nonempty : name ≠ []
  ne_dot : name ≠ ['.']
  ne_dots : name ≠ ['.', '.']

namespace Names

/-- A path with a file name leads to it. -/
theorem of_fileName? (h : Path.fileName? path = some name) : ∃ front, Names path front name := by
  rw [Path.fileName?] at h
  split at h
  case isTrue => cases h
  case isFalse said =>
    obtain rfl := Option.some.inj h
    simp only [Bool.or_eq_true, beq_iff_eq, not_or] at said
    obtain ⟨⟨nonempty, ne_dot⟩, ne_dots⟩ := said
    obtain ⟨idle, whole, all⟩ := trimmed_append (Path.pieces path)
    rcases List.eq_nil_or_concat (Path.trimmed (Path.pieces path)) with none | ⟨front, final, some⟩
    · exact absurd (by rw [last, none]; rfl) nonempty
    · obtain rfl : last path = final := by
        rw [last, some]
        simp
      rw [some, List.concat_eq_append, List.append_assoc, List.singleton_append] at whole
      exact ⟨front, ⟨idle, whole, all⟩, nonempty, ne_dot, ne_dots⟩

theorem trimmed (h : Names path front name) :
    Path.trimmed (Path.pieces path) = front ++ [name] := by
  obtain ⟨idle, whole, all⟩ := h.whole
  have said : isIdle name = false := by
    simp [isIdle, h.nonempty, h.ne_dot]
  have idleOnly : ∀ p ∈ idle.reverse, isIdle p = true := fun p hp => all p (List.mem_reverse.1 hp)
  rw [whole]
  cases front with
  | nil =>
    rw [List.nil_append, Path.trimmed, List.dropWhile_eq_nil_iff.2 idleOnly]
    rfl
  | cons p front =>
    rw [List.cons_append, Path.trimmed, List.reverse_append, List.reverse_cons, List.append_assoc,
      List.singleton_append, List.dropWhile_append_of_pos idleOnly,
      List.dropWhile_cons_of_neg (by simp [said]), List.reverse_cons, List.reverse_reverse]
    rfl

theorem fileName? (h : Names path front name) : Path.fileName? path = some name := by
  rw [Path.fileName?, last, h.trimmed]
  simp [h.nonempty, h.ne_dot, h.ne_dots]

theorem slash_notMem (h : Names path front name) : ∀ p ∈ front ++ [name], '/' ∉ p := by
  obtain ⟨idle, whole, -⟩ := h.whole
  intro p hp
  refine slash_notMem_pieces path p ?_
  rw [whole, ← List.singleton_append, ← List.append_assoc]
  exact List.mem_append_left _ hp

/-- Without the idle pieces, a path leads to its file name. -/
theorem leads (h : Names path front name) :
    Leads (String.ofList (join (front ++ [name]))) front name := by
  exact leads_join h.slash_notMem h.nonempty h.ne_dot h.ne_dots

/-- With another suffix a path leads to another name in the same directory, unless nothing but a dot
stands before the old suffix: then it can be left without a file name. -/
theorem withSuffix (h : Names path front name) {suffix : List Char} (hs : '/' ∉ suffix)
    (hne : suffix ≠ []) :
    Leads (Path.withSuffix path suffix) front ((splitSuffix name).1 ++ '.' :: suffix) ∨
      (splitSuffix name).1 = ['.'] ∧ Path.fileName? (Path.withSuffix path suffix) = none := by
  have slash := h.slash_notMem
  have inFront : ∀ p ∈ front, '/' ∉ p := fun p hp => slash p (List.mem_append_left _ hp)
  obtain ⟨part, nonempty⟩ := stem_prefix h.nonempty
  have inStem : '/' ∉ (splitSuffix name).1 := fun hm => slash name (by simp) (part.mem hm)
  rw [Path.withSuffix, h.fileName?, h.trimmed, List.dropLast_concat]
  dsimp only
  split
  case isTrue bare =>
    obtain ⟨dot, -⟩ := Bool.and_eq_true_iff.1 bare
    refine .inr ⟨eq_of_beq dot, ?_⟩
    have text : Path.pieces (String.ofList (join (front ++ [['.', '.']]))) =
        front ++ [['.', '.']] := by
      rw [Path.pieces, String.toList_ofList, split_join (by simp)]
      exact List.forall_mem_append.2 ⟨inFront, by simp⟩
    rw [Path.fileName?, last, text, trimmed_eq_self rfl]
    simp
  case isFalse =>
    have size : 2 < ((splitSuffix name).1 ++ '.' :: suffix).length := by
      have h1 := List.length_pos_iff.2 hne
      have h2 := List.length_pos_iff.2 nonempty
      rw [List.length_append, List.length_cons]
      omega
    have other (short : List Char) (hl : short.length ≤ 2) :
        (splitSuffix name).1 ++ '.' :: suffix ≠ short := by
      intro e
      rw [e] at size
      omega
    refine .inl (leads_join (List.forall_mem_append.2 ⟨inFront, ?_⟩) (other _ (by simp))
      (other _ (by simp)) (other _ (by simp)))
    intro p hp
    rw [List.mem_singleton.1 hp, List.mem_append, List.mem_cons]
    rintro (hm | hm | hm)
    · exact inStem hm
    · cases hm
    · exact hs hm

/-- The steps of a path to a name: after the name come dots only. -/
theorem steps (h : Names path front name) :
    ∃ n, Path.steps path = turns front ++ String.ofList name :: List.replicate n "." := by
  obtain ⟨idle, whole, all⟩ := h.whole
  have kept : (name != []) = true := by simpa using h.nonempty
  have dots : ∃ n, (idle.filter (· != [])).map String.ofList = List.replicate n "." := by
    refine ⟨((idle.filter (· != [])).map String.ofList).length,
      List.eq_replicate_iff.2 ⟨rfl, fun s hs => ?_⟩⟩
    obtain ⟨p, hp, rfl⟩ := List.mem_map.1 hs
    obtain ⟨hp, some⟩ := List.mem_filter.1 hp
    have := all p hp
    simp only [isIdle, Bool.or_eq_true, beq_iff_eq] at this
    rcases this with rfl | rfl
    · cases some
    · rfl
  obtain ⟨n, dots⟩ := dots
  rw [Path.steps, whole]
  simp only [List.filter_append, List.filter_cons, kept, if_true, List.map_append, List.map_cons,
    dots]
  split
  · exact ⟨n + 1, by
      rw [List.replicate_succ', turns, List.append_assoc, List.cons_append]
      rfl⟩
  · exact ⟨n, by rw [turns, List.map_nil, List.append_nil]⟩

end Names

theorem Leads.names (h : Leads path front name) : Names path front name :=
  ⟨⟨[], h.pieces, by simp⟩, h.nonempty, h.ne_dot, h.ne_dots⟩

/-- A path has one file name, after certain pieces. -/
theorem Names.unique (h : Names path front name) {front' : List (List Char)} {name' : List Char}
    (h' : Names path front' name') : front = front' ∧ name = name' := by
  have e := h.trimmed.symm.trans h'.trimmed
  exact ⟨List.append_inj_left' e rfl, List.singleton_inj.1 (List.append_inj_right' e rfl)⟩

/-! ## Absolute paths -/

/-- A path is absolute if it has pieces after an empty first one. -/
theorem isAbsolute_iff : isAbsolute path = true ↔ ∃ p ps, pieces path = [] :: p :: ps := by
  have slash := slash_notMem_pieces path
  rw [isAbsolute, ← join_pieces path]
  rcases hp : pieces path with - | ⟨p, - | ⟨q, ps⟩⟩
  · exact absurd hp (split_ne_nil _)
  · have own := slash p (by simp [hp])
    refine iff_of_false ?_ (by simp)
    intro first
    exact own (List.mem_of_mem_head? (eq_of_beq first))
  · have own := slash p (by simp [hp])
    rw [join]
    · cases p with
      | nil => exact iff_of_true rfl ⟨q, ps, rfl⟩
      | cons c cs =>
        refine iff_of_false ?_ (by simp)
        intro first
        have : c = '/' := by simpa using first
        exact own (this ▸ List.mem_cons_self)
    · exact List.cons_ne_nil _ _

theorem Names.isAbsolute_eq (h : Names path front name) :
    Path.isAbsolute path = (front.head? == some []) := by
  obtain ⟨idle, whole, -⟩ := h.whole
  rw [Bool.eq_iff_iff, isAbsolute_iff, whole, beq_iff_eq]
  rcases front with - | ⟨p, - | ⟨q, front⟩⟩ <;> simp [h.nonempty]

/-! ## The directory above -/

/-- The steps of the pieces before the last are first steps of a path. -/
theorem turns_prefix {above : List (List Char)} (h : above <+: (trimmed (pieces path)).dropLast) :
    turns above <+: steps path := by
  obtain ⟨idle, whole, -⟩ := trimmed_append (pieces path)
  have part : above <+: pieces path :=
    (h.trans (List.dropLast_prefix _)).trans ⟨idle, whole.symm⟩
  rw [steps]
  simp only [List.map_append]
  exact ((part.filter _).map _).trans (List.prefix_append _ _)

theorem pieces_ofTrimmed {ps : List (List Char)} (hne : ps ≠ []) (root : ps ≠ [[]])
    (slash : ∀ p ∈ ps, '/' ∉ p) : pieces (ofTrimmed ps) = ps := by
  rw [ofTrimmed, if_neg (by simpa using root), pieces, String.toList_ofList,
    split_join hne slash]

/-- The steps of a path without idle pieces at its end. -/
theorem steps_of_trimmed {p : List Char} {rest ps : List (List Char)}
    (own : pieces path = p :: rest) (trim : trimmed ps = p :: rest) :
    steps path = turns (p :: rest) := by
  have plain : (1 < (p :: rest).length && (p :: rest).getLast? == some []) = false := by
    rcases List.eq_nil_or_concat rest with rfl | ⟨front, last, rfl⟩
    · rfl
    · rw [List.concat_eq_append, ← List.cons_append] at trim ⊢
      have said : last ≠ [] := by
        rintro rfl
        cases trimmed_concat trim
      rw [List.getLast?_concat]
      simp [said]
  rw [steps, own]
  simp only [plain, Bool.false_eq_true, if_false, List.append_nil, turns]

/-- A path without a file name has nothing above it, or ends with the directory above. -/
theorem dots_of_fileName? (h : fileName? path = none) :
    (trimmed (pieces path)).dropLast = [] ∨
      ∃ rest, steps path = turns (trimmed (pieces path)).dropLast ++ ".." :: rest := by
  obtain ⟨idle, whole, -⟩ := trimmed_append (pieces path)
  rcases List.eq_nil_or_concat (trimmed (pieces path)) with none | ⟨front, final, some⟩
  · exact .inl (by rw [none]; rfl)
  · rw [List.concat_eq_append] at some
    rw [some, List.dropLast_concat]
    cases front with
    | nil => exact .inl rfl
    | cons p front =>
      right
      have said := trimmed_concat some
      have final_eq : final = ['.', '.'] := by
        rw [fileName?, last, some] at h
        simp only [List.getLastD_concat, Bool.or_eq_true, beq_iff_eq, ite_eq_left_iff, not_or,
          reduceCtorEq, imp_false, Classical.not_not, not_and] at h
        simp only [isIdle, Bool.or_eq_false_iff, beq_eq_false_iff_ne] at said
        exact h said
      subst final_eq
      rw [steps, whole, some]
      simp only [List.filter_append, List.map_append, List.append_assoc]
      exact ⟨_, rfl⟩

/-- The directory above a path to a name is what comes before the name, whatever the name is. -/
theorem Names.parent?_eq (h : Names path front name) :
    Path.parent? path = some (if front = [] then "" else ofTrimmed (Path.trimmed front)) := by
  rw [Path.parent?, h.trimmed]
  rcases front with - | ⟨p, - | ⟨q, front⟩⟩
  · exact if_neg (by simpa using h.nonempty)
  · rfl
  · show some (ofTrimmed (Path.trimmed (p :: q :: front ++ [name]).dropLast)) = _
    rw [List.dropLast_concat, if_neg (List.cons_ne_nil _ _)]

/-- The directory above a path is reached by the first of the path's own steps; at the root, by
none. -/
theorem steps_of_parent? {directory : String} (h : parent? path = some directory)
    (hne : directory ≠ "") :
    isAbsolute directory = isAbsolute path ∧
      ∃ above, above <+: (trimmed (pieces path)).dropLast ∧
        (steps directory = turns above ∨ steps directory = ["."]) := by
  rw [parent?] at h
  rcases ht : trimmed (pieces path) with - | ⟨p, - | ⟨q, ps⟩⟩ <;> rw [ht] at h
  · cases h
  · dsimp only at h
    split at h
    · cases h
    · exact absurd (Option.some.inj h).symm hne
  · obtain ⟨idle, whole, -⟩ := trimmed_append (pieces path)
    obtain ⟨dropped, part, -⟩ := trimmed_append (p :: q :: ps).dropLast
    obtain ⟨rest, first⟩ : ∃ rest, trimmed (p :: q :: ps).dropLast = p :: rest := ⟨_, rfl⟩
    have above : p :: rest <+: (p :: q :: ps).dropLast := ⟨dropped, by rw [← first, ← part]⟩
    have slash : ∀ r ∈ p :: rest, '/' ∉ r := by
      intro r hr
      refine slash_notMem_pieces path r ?_
      rw [whole, ht]
      exact List.mem_append_left _ ((above.trans (List.dropLast_prefix _)).mem hr)
    rw [ht, List.cons_append, List.cons_append] at whole
    have named : directory = ofTrimmed (p :: rest) := by
      rw [← first]
      exact (Option.some.inj h).symm
    by_cases root : p :: rest = [[]]
    · obtain ⟨rfl, rfl⟩ := List.cons.inj root
      refine ⟨?_, [], List.nil_prefix, .inr ?_⟩
      · rw [isAbsolute_iff.2 ⟨q, _, whole⟩, named]
        rfl
      · rw [named]
        rfl
    · have own : pieces directory = p :: rest := by
        rw [named, pieces_ofTrimmed (List.cons_ne_nil _ _) root slash]
      refine ⟨?_, p :: rest, above, .inl ?_⟩
      · rw [Bool.eq_iff_iff, isAbsolute_iff, isAbsolute_iff, own, whole]
        cases rest with
        | nil =>
          have hp : p ≠ [] := fun e => root (by rw [e])
          simp [hp]
        | cons r rest => simp
      · exact steps_of_trimmed own first

end Path

end GatewayDesk
