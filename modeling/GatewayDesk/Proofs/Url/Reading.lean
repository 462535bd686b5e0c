import GatewayDesk.Url.Reader
import Mathlib.Data.List.TakeWhile

/-!
# Reading plain addresses

`read_http` reads the text of an address of scheme `http` whose path is a row of safe segments: the
path stands in the address as it is written, and all that can fail is the authority.

* `dots?_eq_one_iff`, `dots?_eq_two_iff`: the segments that stay and that go up, spelled out.
* `IsSafe`: a segment that no step of the reading changes.
* `split_text`: the text of segments is split into these segments.
-/

namespace GatewayDesk

namespace Segments

/-! ## Dots -/

/-- The spellings of one dot. -/
def dotSpellings : List (List Char) := [['.'], ['%', '2', 'e'], ['%', '2', 'E']]

/-- The segments that name nothing: one or two dots. -/
def dotSegments : List (List Char) :=
  dotSpellings ++ dotSpellings.flatMap fun a => dotSpellings.map (a ++ ·)

theorem dots?_eq_zero_iff {segment : List Char} : dots? segment = some 0 ↔ segment = [] := by
  fun_cases dots? segment <;> simp_all

theorem dots?_eq_succ_iff {segment : List Char} {n : Nat} :
    dots? segment = some (n + 1) ↔
      ∃ dot ∈ dotSpellings, ∃ rest, segment = dot ++ rest ∧ dots? rest = some n := by
  constructor
  · intro h
    fun_cases dots? segment with
    | case1 => cases h
    | case2 cs =>
      rw [dots?] at h
      exact ⟨['.'], by decide, cs, rfl, by simpa using h⟩
    | case3 cs =>
      rw [dots?] at h
      exact ⟨['%', '2', 'e'], by decide, cs, rfl, by simpa using h⟩
    | case4 cs =>
      rw [dots?] at h
      exact ⟨['%', '2', 'E'], by decide, cs, rfl, by simpa using h⟩
    | case5 => simp_all [dots?]
  · rintro ⟨dot, hd, rest, rfl, hr⟩
    simp only [dotSpellings, List.mem_cons, List.not_mem_nil, or_false] at hd
    rcases hd with rfl | rfl | rfl <;> simp [dots?, hr]

/-- A segment that stays is one of the spellings of a dot. -/
theorem dots?_eq_one_iff {segment : List Char} :
    dots? segment = some 1 ↔ segment ∈ dotSpellings := by
  simp [dots?_eq_succ_iff, dots?_eq_zero_iff]

/-- A segment that goes up is two of the spellings of a dot. -/
theorem dots?_eq_two_iff {segment : List Char} :
    dots? segment = some 2 ↔ ∃ a ∈ dotSpellings, ∃ b ∈ dotSpellings, segment = a ++ b := by
  simp only [dots?_eq_succ_iff, dots?_eq_zero_iff]
  constructor
  · rintro ⟨a, ha, _, rfl, b, hb, _, rfl, rfl⟩
    exact ⟨a, ha, b, hb, by simp⟩
  · rintro ⟨a, ha, b, hb, rfl⟩
    exact ⟨a, ha, b, rfl, b, hb, [], by simp, rfl⟩

theorem isPlain_iff {segment : List Char} : isPlain segment = true ↔ segment ∉ dotSegments := by
  have two : segment ∈ dotSpellings.flatMap (fun a => dotSpellings.map (a ++ ·)) ↔
      ∃ a ∈ dotSpellings, ∃ b ∈ dotSpellings, segment = a ++ b := by
    simp only [List.mem_flatMap, List.mem_map, eq_comm]
  rw [dotSegments, List.mem_append, two, ← dots?_eq_one_iff, ← dots?_eq_two_iff]
  simp [isPlain, isSingleDot, isDoubleDot]

/-! ## Safe segments -/

/-- Whether a character stands in a path as it is written. -/
def isSafeChar (c : Char) : Bool := c.isAlphanum || "-._~!$&'()*+,;=:@%".toList.contains c

/-- Whether a segment stands in an address as it is written and names something. -/
structure IsSafe (segment : List Char) : Prop where
  nonempty : segment ≠ []
  chars : ∀ c ∈ segment, isSafeChar c = true
  plain : segment ∉ dotSegments

instance (segment : List Char) : Decidable (IsSafe segment) :=
  decidable_of_iff
    (segment ≠ [] ∧ segment.all isSafeChar = true ∧ segment ∉ dotSegments)
    ⟨fun h => ⟨h.1, List.all_eq_true.1 h.2.1, h.2.2⟩,
      fun h => ⟨h.1, List.all_eq_true.2 h.2, h.3⟩⟩

variable {segments : List (List Char)}

theorem ascii_of_isSafeChar {c : Char} (h : isSafeChar c = true) : c.toNat < 0x7F := by
  rw [isSafeChar, Bool.or_eq_true] at h
  rcases h with h | h
  · unfold Char.isAlphanum Char.isAlpha Char.isUpper Char.isLower Char.isDigit at h
    simp only [Bool.or_eq_true, Bool.and_eq_true, decide_eq_true_eq, ge_iff_le,
      UInt32.le_iff_toNat_le] at h
    show c.val.toNat < 0x7F
    have : 'Z'.val.toNat = 90 := rfl
    have : 'z'.val.toNat = 122 := rfl
    have : '9'.val.toNat = 57 := rfl
    omega
  · have small : "-._~!$&'()*+,;=:@%".toList.all (fun d => d.toNat < 0x7F) = true := by
      decide +kernel
    exact of_decide_eq_true (List.all_eq_true.1 small c (by simpa using h))

/-- What the reading of addresses asks of the characters of a safe segment. -/
theorem isSafeChar_eq {c : Char} (h : isSafeChar c = true) :
    0x20 < c.toNat ∧ c ≠ '/' ∧ c ≠ '\\' ∧ c ≠ '?' ∧ c ≠ '#' ∧ Percent.inPath c = false := by
  have all : ∀ n < 0x7F, isSafeChar (Char.ofNat n) = true →
      0x20 < (Char.ofNat n).toNat ∧ Char.ofNat n ≠ '/' ∧ Char.ofNat n ≠ '\\' ∧
        Char.ofNat n ≠ '?' ∧ Char.ofNat n ≠ '#' ∧ Percent.inPath (Char.ofNat n) = false := by
    decide +kernel
  have := all c.toNat (ascii_of_isSafeChar h)
  rw [Char.ofNat_toNat] at this
  exact this h

/-- No character of a safe segment is encoded in a path. -/
theorem IsSafe.encode {segment : List Char} (h : IsSafe segment) :
    Percent.encode Percent.inPath segment = segment :=
  Percent.encode_eq_self fun c hc => (isSafeChar_eq (h.chars c hc)).2.2.2.2.2

theorem split_ne_nil (backslash : Bool) (cs : List Char) : split backslash cs ≠ [] := by
  cases cs with
  | nil => exact List.cons_ne_nil _ _
  | cons c cs =>
    rw [split]
    split
    · exact List.cons_ne_nil _ _
    · split <;> exact List.cons_ne_nil _ _

/-- A text without slashes is one segment. -/
theorem split_single {segment : List Char} (h : ∀ c ∈ segment, c ≠ '/' ∧ c ≠ '\\') :
    split true segment = [segment] := by
  induction segment with
  | nil => rfl
  | cons c cs ih =>
    obtain ⟨h1, h2⟩ := h c List.mem_cons_self
    rw [split, ih fun d hd => h d (List.mem_cons_of_mem _ hd)]
    simp [h1, h2]

theorem split_append {segment cs : List Char} (h : ∀ c ∈ segment, c ≠ '/' ∧ c ≠ '\\') :
    split true (segment ++ '/' :: cs) = segment :: split true cs := by
  induction segment with
  | nil =>
    rw [List.nil_append, split]
    cases hs : split true cs with
    | nil => exact absurd hs (split_ne_nil true cs)
    | cons s ss => rfl
  | cons c segment ih =>
    obtain ⟨h1, h2⟩ := h c List.mem_cons_self
    rw [List.cons_append, split, ih fun d hd => h d (List.mem_cons_of_mem _ hd)]
    simp [h1, h2]

/-- The text of segments, after its first slash, is split into these segments. -/
theorem split_text {segment : List Char}
    (h : ∀ s ∈ segment :: segments, ∀ c ∈ s, c ≠ '/' ∧ c ≠ '\\') :
    split true (text (segment :: segments)).tail = segment :: segments := by
  induction segments generalizing segment with
  | nil => simpa [text] using split_single (h segment List.mem_cons_self)
  | cons s ss ih =>
    have hs := h segment List.mem_cons_self
    have rest : text (s :: ss) = '/' :: (text (s :: ss)).tail := rfl
    have whole : (text (segment :: s :: ss)).tail = segment ++ '/' :: (text (s :: ss)).tail := rfl
    rw [whole, split_append hs, ih fun t ht => h t (List.mem_cons_of_mem _ ht)]

end Segments

namespace Url

open Reader

/-- Whether a character may stand in the authority of a server: one of ASCII that is printed and
does not end an authority. -/
def isAuthorityChar (c : Char) : Bool :=
  0x20 < c.toNat && c.toNat < 0x7F && !(['/', '\\', '?', '#'].contains c)

/-- The segments of an address whose text ends in a row of segments. -/
def home : List (List Char) → List (List Char)
  | [] => [[]]
  | s :: ss => s :: ss

/-- An address of scheme `http` that ends in its path. -/
def http (authority : Authority) (segments : List (List Char)) : Url :=
  ⟨['h', 't', 't', 'p'], some authority, .segments segments, none, none⟩

/-- The text of an address of scheme `http`. -/
def httpText (authority : List Char) (segments : List (List Char)) : List Char :=
  ['h', 't', 't', 'p', ':', '/', '/'] ++ authority ++ Segments.text segments

theorem dropWhile_eq_self {α : Type} {p : α → Bool} {xs : List α} (h : ∀ x ∈ xs, p x = false) :
    xs.dropWhile p = xs := by
  cases xs with
  | nil => rfl
  | cons x xs => rw [List.dropWhile_cons_of_neg (by simp [h x List.mem_cons_self])]

theorem clean_eq_self {cs : List Char} (h : ∀ c ∈ cs, 0x20 < c.toNat) : clean cs = cs := by
  have edge : ∀ c ∈ cs, isEdge c = false := fun c hc => by
    have := h c hc
    simp [isEdge]; omega
  have inner : ∀ c ∈ cs, (!isBreak c) = true := fun c hc => by
    have := h c hc
    simp only [isBreak, Bool.not_eq_true', Bool.or_eq_false_iff, beq_eq_false_iff_ne]
    refine ⟨⟨?_, ?_⟩, ?_⟩ <;> (rintro rfl; revert this; decide)
  rw [clean, dropWhile_eq_self edge, dropWhile_eq_self fun c hc => edge c (List.mem_reverse.1 hc),
    List.reverse_reverse, List.filter_eq_self.2 inner]

theorem cut_eq {mark : Char} {cs : List Char} (h : mark ∉ cs) : cut mark cs = (cs, none) := by
  have : cs.dropWhile (· != mark) = [] := by
    rw [List.dropWhile_eq_nil_iff]
    rintro c hc
    rw [bne_iff_ne]
    rintro rfl
    exact h hc
  rw [cut, this]

variable {authority : List Char} {segments : List (List Char)}

theorem isAuthorityChar_iff {c : Char} :
    isAuthorityChar c = true ↔
      0x20 < c.toNat ∧ c.toNat < 0x7F ∧ c ≠ '/' ∧ c ≠ '\\' ∧ c ≠ '?' ∧ c ≠ '#' := by
  simp [isAuthorityChar, and_assoc]

theorem isSlash_authority (ha : ∀ c ∈ authority, isAuthorityChar c = true) :
    ∀ c ∈ authority, (!isSlash c) = true := by
  intro c hc
  obtain ⟨-, -, h1, h2, -⟩ := isAuthorityChar_iff.1 (ha c hc)
  simp [isSlash, h1, h2]

theorem takeWhile_text (segments : List (List Char)) :
    (Segments.text segments).takeWhile (fun c => !isSlash c) = [] := by
  cases segments <;> rfl

theorem dropWhile_text (segments : List (List Char)) :
    (Segments.text segments).dropWhile (fun c => !isSlash c) = Segments.text segments := by
  cases segments <;> rfl

/-- Safe segments are the path of the text that they stand in. -/
theorem segments_text (hs : ∀ s ∈ segments, Segments.IsSafe s) :
    Reader.segments true (Segments.text segments).tail = home segments := by
  cases segments with
  | nil => rfl
  | cons s ss =>
    have slash : ∀ t ∈ s :: ss, ∀ c ∈ t, c ≠ '/' ∧ c ≠ '\\' := fun t ht c hc =>
      have := Segments.isSafeChar_eq ((hs t ht).chars c hc)
      ⟨this.2.1, this.2.2.1⟩
    have plain : ∀ t ∈ s :: ss, Segments.isPlain t = true := fun t ht =>
      Segments.isPlain_iff.2 (hs t ht).plain
    rw [Reader.segments, Segments.split_text slash, Segments.resolve_plain plain]
    calc (s :: ss).map (Percent.encode Percent.inPath)
        = (s :: ss).map id := List.map_congr_left fun t ht => (hs t ht).encode
      _ = s :: ss := List.map_id _

/-- The steps of reading an authority: user, host and port. -/
theorem common_eq (usual : Nat) (cs : List Char) :
    common usual cs =
      if (cutHost false (cutUser cs).2).1.isEmpty then .error .noHost
      else
        (Host.ofText (cutHost false (cutUser cs).2).1).bind fun host =>
          (port? (some usual) (cutHost false (cutUser cs).2).2).map fun port =>
            ⟨(user ((cutUser cs).1.getD [])).1, (user ((cutUser cs).1.getD [])).2, some host,
              port⟩ := by
  by_cases h : (cutHost false (cutUser cs).2).1.isEmpty = true
  · rw [if_pos h]
    simp only [common, h, if_true]
    rfl
  · rw [if_neg h]
    simp only [common, h]
    rfl

/-- An authority of a common scheme has a host. -/
theorem host_of_common {usual : Nat} {cs : List Char} {a : Authority}
    (h : common usual cs = .ok a) : a.host.isSome = true := by
  rw [common_eq] at h
  split at h
  · cases h
  · cases hh : Host.ofText (cutHost false (cutUser cs).2).1 with
    | error e => rw [hh] at h; cases h
    | ok host =>
      rw [hh] at h
      cases hp : port? (some usual) (cutHost false (cutUser cs).2).2 with
      | error e =>
        simp only [Except.bind, hp] at h
        cases h
      | ok port =>
        simp only [Except.bind, hp] at h
        cases h
        rfl

theorem commonRest_eq (usual : Nat) (hne : authority ≠ [])
    (ha : ∀ c ∈ authority, isAuthorityChar c = true) (hs : ∀ s ∈ segments, Segments.IsSafe s) :
    commonRest usual ('/' :: '/' :: (authority ++ Segments.text segments)) =
      (common usual authority).map fun a => (some a, .segments (home segments)) := by
  have outer : ('/' :: '/' :: (authority ++ Segments.text segments)).dropWhile isSlash =
      authority ++ Segments.text segments := by
    obtain ⟨c, cs, rfl⟩ := List.exists_cons_of_ne_nil hne
    have hc := isSlash_authority ha c List.mem_cons_self
    rw [List.dropWhile_cons_of_pos (by rfl), List.dropWhile_cons_of_pos (by rfl), List.cons_append,
      List.dropWhile_cons_of_neg (by simpa using hc)]
  rw [commonRest, outer, List.takeWhile_append_of_pos (isSlash_authority ha),
    List.dropWhile_append_of_pos (isSlash_authority ha), takeWhile_text, dropWhile_text,
    List.append_nil, segments_text hs]
  cases common usual authority <;> rfl

/-- The characters of a text of scheme `http`. -/
theorem of_mem_httpText (ha : ∀ c ∈ authority, isAuthorityChar c = true)
    (hs : ∀ s ∈ segments, Segments.IsSafe s) {c : Char} (hc : c ∈ httpText authority segments) :
    0x20 < c.toNat ∧ c ≠ '?' ∧ c ≠ '#' := by
  simp only [httpText, List.mem_append, or_assoc] at hc
  rcases hc with hc | hc | hc
  · simp only [List.mem_cons, List.not_mem_nil, or_false] at hc
    rcases hc with rfl | rfl | rfl | rfl | rfl | rfl | rfl <;> decide
  · obtain ⟨h1, -, -, -, h2, h3⟩ := isAuthorityChar_iff.1 (ha c hc)
    exact ⟨h1, h2, h3⟩
  · simp only [Segments.text, List.mem_flatMap, List.mem_cons] at hc
    obtain ⟨s, hm, rfl | hc⟩ := hc
    · decide
    · have := Segments.isSafeChar_eq ((hs s hm).chars c hc)
      exact ⟨this.1, this.2.2.2.1, this.2.2.2.2.1⟩

/-- A text of scheme `http` with safe segments is the address of these segments, if its authority is
one. -/
theorem read_http (hne : authority ≠ []) (ha : ∀ c ∈ authority, isAuthorityChar c = true)
    (hs : ∀ s ∈ segments, Segments.IsSafe s) :
    read (String.ofList (httpText authority segments)) =
      (common 80 authority).map fun a => http a (home segments) := by
  have chars := fun c => of_mem_httpText (c := c) ha hs
  have split : httpText authority segments =
      'h' :: 't' :: 't' :: 'p' :: ':' :: '/' :: '/' :: (authority ++ Segments.text segments) := rfl
  have name : scheme? (httpText authority segments) =
      some (['h', 't', 't', 'p'], '/' :: '/' :: (authority ++ Segments.text segments)) := rfl
  have inner : ∀ c ∈ '/' :: '/' :: (authority ++ Segments.text segments), c ≠ '?' ∧ c ≠ '#' := by
    intro c hc
    refine (chars c ?_).2
    rw [split]
    exact List.mem_append_right ['h', 't', 't', 'p', ':'] hc
  have mark : '#' ∉ '/' :: '/' :: (authority ++ Segments.text segments) :=
    fun h => (inner _ h).2 rfl
  have query : '?' ∉ '/' :: '/' :: (authority ++ Segments.text segments) :=
    fun h => (inner _ h).1 rfl
  have kind : Kind.ofScheme ['h', 't', 't', 'p'] = .common 80 := rfl
  rw [read, String.toList_ofList, clean_eq_self fun c hc => (chars c hc).1, name]
  simp only [cut_eq mark, cut_eq query, kind, rest, commonRest_eq 80 hne ha hs]
  cases common 80 authority <;> rfl

end Url

end GatewayDesk
