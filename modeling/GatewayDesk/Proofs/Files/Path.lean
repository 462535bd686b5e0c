import GatewayDesk.Files.Path
import Mathlib.Data.List.TakeWhile

/-!
# Paths to a name

A path whose last piece is a name leads through the pieces before it to that name. Another suffix
makes another name of it, unless nothing but a dot stands before the old one.

* `split_join`: pieces without slashes are those of the path that they make up.
* `Leads`: the steps of a path to a name.
* `leads_join`: pieces that end in a name make up a path that leads to it.
-/

namespace GatewayDesk

namespace Path

/-! ## Pieces -/

theorem split_ne_nil (cs : List Char) : split cs ≠ [] := by
  cases cs with
  | nil => exact List.cons_ne_nil _ _
  | cons c cs =>
    rw [split]
    split
    · exact List.cons_ne_nil _ _
    · split <;> exact List.cons_ne_nil _ _

theorem slash_notMem_split (cs : List Char) : ∀ p ∈ split cs, '/' ∉ p := by
  induction cs with
  | nil =>
    intro p hp
    rw [List.mem_singleton.1 hp]
    exact List.not_mem_nil
  | cons c cs ih =>
    intro p hp
    rw [split] at hp
    cases hs : split cs with
    | nil => exact absurd hs (split_ne_nil cs)
    | cons q qs =>
      rw [hs] at hp ih
      by_cases hc : c = '/'
      · simp only [hc, if_true] at hp
        rcases List.mem_cons.1 hp with rfl | hp
        · exact List.not_mem_nil
        · exact ih p hp
      · simp only [hc, if_false] at hp
        rcases List.mem_cons.1 hp with rfl | hp
        · rintro (_ | ⟨_, hm⟩)
          · exact hc rfl
          · exact ih q List.mem_cons_self hm
        · exact ih p (List.mem_cons_of_mem _ hp)

theorem split_piece {piece : List Char} (h : '/' ∉ piece) : split piece = [piece] := by
  induction piece with
  | nil => rfl
  | cons c cs ih =>
    have hc : c ≠ '/' := fun e => h (e ▸ List.mem_cons_self)
    rw [split, ih fun hm => h (List.mem_cons_of_mem _ hm)]
    simp [hc]

theorem split_append {piece : List Char} (h : '/' ∉ piece) (cs : List Char) :
    split (piece ++ '/' :: cs) = piece :: split cs := by
  induction piece with
  | nil =>
    rw [List.nil_append, split]
    cases hs : split cs with
    | nil => exact absurd hs (split_ne_nil cs)
    | cons q qs => rfl
  | cons c piece ih =>
    have hc : c ≠ '/' := fun e => h (e ▸ List.mem_cons_self)
    rw [List.cons_append, split, ih fun hm => h (List.mem_cons_of_mem _ hm)]
    simp [hc]

/-- A slash stands between pieces. -/
theorem split_slash (front back : List Char) :
    split (front ++ '/' :: back) = split front ++ split back := by
  induction front with
  | nil => exact split_append List.not_mem_nil back
  | cons c front ih =>
    rw [List.cons_append, split, ih, split]
    cases hf : split front with
    | nil => exact absurd hf (split_ne_nil front)
    | cons p ps =>
      dsimp only [List.cons_append]
      split <;> rfl

/-- Pieces without slashes are those of the path that they make up. -/
theorem split_join {ps : List (List Char)} (hne : ps ≠ []) (h : ∀ p ∈ ps, '/' ∉ p) :
    split (join ps) = ps := by
  induction ps with
  | nil => exact absurd rfl hne
  | cons p ps ih =>
    have hp := h p List.mem_cons_self
    cases ps with
    | nil => exact split_piece hp
    | cons q qs =>
      rw [join, split_append hp, ih (List.cons_ne_nil _ _) fun r hr =>
        h r (List.mem_cons_of_mem _ hr)]
      rintro ⟨⟩

/-- Nothing is trimmed after a piece that says something. -/
theorem trimmed_eq_self {front : List (List Char)} {piece : List Char}
    (said : isIdle piece = false) : trimmed (front ++ [piece]) = front ++ [piece] := by
  cases front with
  | nil => rfl
  | cons p front =>
    rw [List.cons_append, trimmed, List.reverse_append, List.reverse_singleton,
      List.singleton_append, List.dropWhile_cons_of_neg (by simp [said]), List.reverse_cons,
      List.reverse_reverse]

/-! ## Suffixes -/

/-- A file name is its stem, a dot and its suffix, which has no dot. -/
theorem splitSuffix_eq_some {name stem suffix : List Char}
    (h : splitSuffix name = (stem, some suffix)) :
    name = stem ++ '.' :: suffix ∧ '.' ∉ suffix ∧ stem ≠ [] := by
  have whole : (name.reverse.dropWhile (· != '.')).reverse ++
      (name.reverse.takeWhile (· != '.')).reverse = name := by
    rw [← List.reverse_append, List.takeWhile_append_dropWhile, List.reverse_reverse]
  have first := List.head?_dropWhile_not (· != '.') name.reverse
  have dotless : '.' ∉ (name.reverse.takeWhile (· != '.')).reverse := by
    intro hm
    have := List.mem_takeWhile_imp (List.mem_reverse.1 hm)
    simp at this
  rw [splitSuffix] at h
  revert h
  generalize (name.reverse.takeWhile (· != '.')).reverse = last at whole dotless ⊢
  generalize name.reverse.dropWhile (· != '.') = front at whole first ⊢
  subst whole
  cases front with
  | nil =>
    rw [if_pos (by simp)]
    rintro ⟨⟩
  | cons c front =>
    obtain rfl : c = '.' := by simpa using first
    have stemEq : (('.' :: front).reverse ++ last).take
        ((('.' :: front).reverse ++ last).length - last.length - 1) = front.reverse := by
      have size : (('.' :: front).reverse ++ last).length - last.length - 1 =
          front.reverse.length := by
        simp only [List.reverse_cons, List.append_assoc, List.length_append, List.length_reverse,
          List.length_cons, List.length_nil]
        omega
      rw [size, List.reverse_cons, List.append_assoc, List.take_left]
    rw [stemEq]
    split
    case isTrue => rintro ⟨⟩
    case isFalse hs =>
      rintro ⟨⟩
      exact ⟨by simp, dotless, fun e => hs (by rw [e]; rfl)⟩

theorem splitSuffix_eq_none {name stem : List Char} (h : splitSuffix name = (stem, none)) :
    stem = name := by
  rw [splitSuffix] at h
  split at h
  · exact (congrArg Prod.fst h).symm
  · cases h

/-- The stem of a name is a first part of the name, and not empty. -/
theorem stem_prefix {name : List Char} (h : name ≠ []) :
    (splitSuffix name).1 <+: name ∧ (splitSuffix name).1 ≠ [] := by
  cases hs : splitSuffix name with
  | mk stem old =>
    cases old with
    | some old =>
      obtain ⟨rfl, -, nonempty⟩ := splitSuffix_eq_some hs
      exact ⟨List.prefix_append _ _, nonempty⟩
    | none =>
      obtain rfl := splitSuffix_eq_none hs
      exact ⟨List.prefix_rfl, h⟩

/-- Only a name that starts with two dots has one dot for its stem. -/
theorem dots_prefix_of_stem {name : List Char} (hne : name ≠ ['.'])
    (h : (splitSuffix name).1 = ['.']) : ['.', '.'] <+: name := by
  cases hs : splitSuffix name with
  | mk stem old =>
    obtain rfl : stem = ['.'] := by rwa [hs] at h
    cases old with
    | some old =>
      obtain ⟨rfl, -, -⟩ := splitSuffix_eq_some hs
      exact List.prefix_append ['.', '.'] old
    | none => exact absurd (splitSuffix_eq_none hs).symm hne

/-- Another suffix with a dot in it changes a file name. -/
theorem splitSuffix_ne (name : List Char) {suffix : List Char} (h : '.' ∈ suffix) :
    (splitSuffix name).1 ++ '.' :: suffix ≠ name := by
  intro e
  cases hs : splitSuffix name with
  | mk stem old =>
    rw [hs] at e
    change stem ++ '.' :: suffix = name at e
    cases old with
    | some old =>
      obtain ⟨he, dotless, -⟩ := splitSuffix_eq_some hs
      rw [he] at e
      have := (List.cons_eq_cons.1 (List.append_cancel_left e)).2
      exact dotless (this ▸ h)
    | none =>
      have := congrArg List.length e
      rw [splitSuffix_eq_none hs, List.length_append, List.length_cons] at this
      omega

/-! ## Names -/

/-- Whether a path leads through some pieces to a name in a directory: its last piece is the name of
an entry, not idle and not the directory above. -/
structure Leads (path : String) (front : List (List Char)) (name : List Char) : Prop where
  pieces : pieces path = front ++ [name]
  nonempty : name ≠ []
  ne_dot : name ≠ ['.']
  ne_dots : name ≠ ['.', '.']

/-- The steps through the pieces before a name. -/
def turns (front : List (List Char)) : List String :=
  (front.filter (· != [])).map String.ofList

namespace Leads

variable {path : String} {front : List (List Char)} {name : List Char}

theorem steps (h : Leads path front name) :
    Path.steps path = turns front ++ [String.ofList name] := by
  have kept : (name != []) = true := by simpa using h.nonempty
  have last : ((front ++ [name]).getLast? == some []) = false := by
    rw [List.getLast?_concat, beq_eq_false_iff_ne]
    rintro ⟨⟩
    exact h.nonempty rfl
  rw [Path.steps, h.pieces]
  simp only [last, Bool.and_false, Bool.false_eq_true, if_false, List.append_nil,
    List.filter_append, List.filter_cons, kept, if_true, List.filter_nil, List.map_append,
    List.map_cons, List.map_nil, turns]

theorem trimmed (h : Leads path front name) :
    Path.trimmed (Path.pieces path) = front ++ [name] := by
  rw [h.pieces]
  exact trimmed_eq_self (by simp [isIdle, h.nonempty, h.ne_dot])

theorem fileName? (h : Leads path front name) : Path.fileName? path = some name := by
  rw [Path.fileName?, last, h.trimmed]
  simp [h.nonempty, h.ne_dot, h.ne_dots]

theorem slash_notMem (h : Leads path front name) : ∀ p ∈ front ++ [name], '/' ∉ p := by
  rw [← h.pieces]
  exact slash_notMem_split _

/-- A path is absolute if it has directories, the first of them without a name. -/
theorem isAbsolute_eq (h : Leads path front name) :
    Path.isAbsolute path = (front.head? == some []) := by
  have slash := h.slash_notMem
  rw [Path.isAbsolute, ← join_pieces, h.pieces]
  cases front with
  | nil =>
    obtain ⟨c, cs, rfl⟩ := List.exists_cons_of_ne_nil h.nonempty
    have hc : c ≠ '/' := by
      rintro rfl
      exact slash ('/' :: cs) (by simp) List.mem_cons_self
    simp [join, hc]
  | cons p front =>
    have whole : join (p :: (front ++ [name])) = p ++ '/' :: join (front ++ [name]) := by
      cases front <;> rfl
    rw [List.cons_append, whole]
    cases p with
    | nil => rfl
    | cons c cs =>
      have hc : c ≠ '/' := by
        rintro rfl
        exact slash ('/' :: cs) (by simp) List.mem_cons_self
      simp [hc]

/-- The name is no row of dots. -/
theorem ofList_ne (h : Leads path front name) :
    String.ofList name ≠ "." ∧ String.ofList name ≠ ".." := by
  have dot : "." = String.ofList ['.'] := rfl
  have dots : ".." = String.ofList ['.', '.'] := rfl
  rw [dot, dots]
  constructor
  · intro e
    exact h.ne_dot (String.ofList_injective e)
  · intro e
    exact h.ne_dots (String.ofList_injective e)

/-- A path whose last step is no row of dots leads to a name. -/
theorem of_steps {step : String} (h : (Path.steps path).getLast? = some step) (hd : step ≠ ".")
    (hds : step ≠ "..") : ∃ front, Leads path front step.toList := by
  obtain ⟨front, last, hp⟩ : ∃ front last, Path.pieces path = front ++ [last] := by
    rcases List.eq_nil_or_concat (Path.pieces path) with hn | ⟨front, last, hp⟩
    · exact absurd hn (split_ne_nil _)
    · exact ⟨front, last, by rw [hp, List.concat_eq_append]⟩
  rw [Path.steps, hp] at h
  -- A path that ends in a slash has a dot for its last step.
  by_cases hl : last = []
  · subst hl
    by_cases hf : front = []
    · subst hf
      simp at h
    · have : 0 < front.length := List.length_pos_iff.2 hf
      simp [this] at h
      exact absurd h.symm hd
  · have kept : (last != []) = true := by simpa using hl
    simp only [List.getLast?_concat, Option.some_beq_some, beq_eq_false_iff_ne.2 hl, Bool.and_false,
      Bool.false_eq_true, if_false, List.append_nil, List.filter_append, List.filter_cons, kept,
      if_true, List.filter_nil, List.map_append, List.map_cons, List.map_nil,
      Option.some.injEq] at h
    subst h
    rw [String.toList_ofList]
    exact ⟨front, hp, hl, fun e => hd (by rw [e]), fun e => hds (by rw [e])⟩

end Leads

/-- Pieces that end in a name make up a path that leads to it. -/
theorem leads_join {front : List (List Char)} {name : List Char}
    (slash : ∀ p ∈ front ++ [name], '/' ∉ p) (nonempty : name ≠ []) (ne_dot : name ≠ ['.'])
    (ne_dots : name ≠ ['.', '.']) : Leads (String.ofList (join (front ++ [name]))) front name := by
  refine ⟨?_, nonempty, ne_dot, ne_dots⟩
  rw [pieces, String.toList_ofList, split_join (by simp) slash]

end Path

end GatewayDesk
