import GatewayDesk.Proofs.Files.Growth

/-!
# Entries of a directory

The path of an entry of a directory leads through the pieces of the path of the directory to the
name of the entry. So it is settled if that of the directory is, as it is where the directory is
there.

* `Path.leads_under`: where the path of an entry leads.
* `Settled.under`: the path of an entry of a settled directory is settled.
-/

namespace GatewayDesk

namespace Path

variable {directory name : String}

/-- Whether a text is a name that an entry can have. -/
structure IsName (name : String) : Prop where
  slash : '/' ∉ name.toList
  nonempty : name ≠ ""
  ne_dot : name ≠ "."
  ne_dots : name ≠ ".."

/-- The path of an entry leads through the pieces of the path of its directory to its name. -/
theorem leads_under (hd : directory ≠ "") (plain : IsName name) :
    ∃ front, Leads (under directory name) front name.toList ∧
      turns front = turns (pieces directory) ∧
      isAbsolute (under directory name) = isAbsolute directory := by
  have leads {front : List (List Char)}
      (h : pieces (under directory name) = front ++ [name.toList]) :
      Leads (under directory name) front name.toList :=
    { pieces := h
      nonempty := fun e => plain.nonempty (String.toList_inj.1 e)
      ne_dot := fun e => plain.ne_dot (String.toList_inj.1 e)
      ne_dots := fun e => plain.ne_dots (String.toList_inj.1 e) }
  have some : directory.toList ≠ [] := fun e => hd (String.toList_inj.1 e)
  have first (more : List Char) :
      directory.toList.head?.or more.head? = directory.toList.head? := by
    obtain ⟨c, cs, e⟩ := List.exists_cons_of_ne_nil some
    rw [e]
    rfl
  rcases List.eq_nil_or_concat directory.toList with none | ⟨front, c, whole⟩
  · exact absurd none some
  rw [List.concat_eq_append] at whole
  by_cases slash : c = '/'
  · -- The slash at the end of the directory's path stands before the name.
    subst slash
    have path : under directory name = directory ++ name := by
      rw [under, whole, List.getLast?_concat]
      rfl
    refine ⟨split front, leads ?_, ?_, ?_⟩
    · rw [path, pieces, String.toList_append, whole, List.append_assoc, List.singleton_append,
        split_slash, split_piece plain.slash]
    · rw [pieces, whole, split_slash, turns, turns, List.filter_append]
      exact congrArg _ (List.append_nil _).symm
    · rw [path, isAbsolute, isAbsolute, String.toList_append, List.head?_append, first]
  · have path : under directory name = directory ++ "/" ++ name := by
      rw [under, whole, List.getLast?_concat]
      split
      case h_1 e => cases e
      case h_2 e => exact absurd (Option.some.inj e) slash
      case h_3 => rfl
    have text : (under directory name).toList = directory.toList ++ '/' :: name.toList := by
      rw [path, String.toList_append, String.toList_append, List.append_assoc]
      rfl
    refine ⟨pieces directory, leads ?_, rfl, ?_⟩
    · rw [pieces, text, split_slash, split_piece plain.slash, pieces]
    · rw [isAbsolute, isAbsolute, text, List.head?_append, first]

/-- The steps of a path are those of its pieces, and a dot if it asks for a directory. -/
theorem steps_eq_turns (path : String) :
    steps path = turns (pieces path) ∨ steps path = turns (pieces path) ++ ["."] := by
  rw [steps]
  split
  · exact .inr (List.map_append ..)
  · exact .inl (by rw [List.append_nil, turns])

end Path

namespace FileTree

variable {tree : FileTree} {directory name : String}

/-- The path of a directory that is there is settled. -/
theorem settled_of_isDirectory (h : tree.isDirectory directory = true) :
    directory ≠ "" ∧ tree.Settled directory := by
  rw [isDirectory] at h
  split at h
  case h_1 l hl =>
    obtain ⟨way, hr, hw⟩ := Except.bind_eq_ok.1 hl
    refine ⟨?_, Path.steps directory, [], l, (List.append_nil _).symm, ?_, eq_of_beq h, by simp⟩
    · rintro rfl
      cases hr
    · obtain rfl := route_eq_ok hr
      exact hw
  case h_2 => cases h

/-- The path of an entry of a settled directory is settled. -/
theorem Settled.under (h : tree.Settled directory) (hd : directory ≠ "") (plain : Path.IsName name)
    (short : name.utf8ByteSize ≤ 255) :
    Path.under directory name ≠ "" ∧ tree.Settled (Path.under directory name) := by
  obtain ⟨front, leads, same, absolute⟩ := Path.leads_under hd plain
  have steps : Path.steps (Path.under directory name) =
      Path.turns (Path.pieces directory) ++ [name] := by
    rw [leads.steps, same, String.ofList_toList]
  have origin : tree.origin (Path.under directory name) = tree.origin directory := by
    rw [FileTree.origin, absolute, FileTree.origin]
  have own : ∀ step ∈ [name], IsDown step := by
    simpa [IsDown] using ⟨plain.ne_dots, short⟩
  refine ⟨fun empty => ?_, ?_⟩
  · have named := leads.fileName?
    rw [empty] at named
    cases named
  · obtain ⟨there, names, l, split, walks, stands, down⟩ := h
    rw [Settled, steps, origin]
    rcases Path.steps_eq_turns directory with turns | turns <;> rw [turns] at split
    · refine ⟨there, names ++ [name], l, by rw [split, List.append_assoc], walks, stands, ?_⟩
      exact List.forall_mem_append.2 ⟨down, own⟩
    · rcases List.eq_nil_or_concat names with rfl | ⟨names, dot, rfl⟩
      · -- The dot is one of the steps that lead to a directory that is there.
        rw [List.append_nil] at split
        rw [← split] at walks
        exact ⟨_, [name], l, rfl, (walk_dot.1 walks).1, stands, own⟩
      · rw [List.concat_eq_append, ← List.append_assoc] at split
        obtain ⟨split, -⟩ := List.append_inj' split rfl
        refine ⟨there, names ++ [name], l, by rw [split, List.append_assoc], walks, stands, ?_⟩
        exact List.forall_mem_append.2 ⟨fun s hs => down s (by simp [hs]), own⟩

end FileTree

end GatewayDesk
