import GatewayDesk.Proofs.Except
import GatewayDesk.Proofs.Url.Ending

/-!
# Authorities in longer texts

What is appended to an address after a slash changes neither its scheme nor its authority, and
neither do slashes at its end; but where only slashes follow the colon, it is the authority.

* `clean_append`, `cleanFront_eq`: how a text is cleaned in parts.
* `read_common`: the scheme and the authority of an address, from its text.
* `scheme?_server`: a text with slashes at its end, and with segments after it.
* `authorityText_append`, `authorityText_edges`, `authorityText_slashes`: the authority of each.
-/

namespace GatewayDesk

namespace Url

namespace Reader

/-! ## The outside of an address -/

/-- The text without the characters that say nothing, but for those at its end. -/
def cleanFront (cs : List Char) : List Char := (cs.dropWhile isEdge).filter fun c => !isBreak c

/-- The text without the characters that say nothing, but for those at its start. -/
def cleanBack (cs : List Char) : List Char :=
  (cs.reverse.dropWhile isEdge).reverse.filter fun c => !isBreak c

theorem isEdge_of_isBreak {c : Char} (h : isBreak c = true) : isEdge c = true := by
  simp only [isBreak, Bool.or_eq_true, beq_iff_eq, or_assoc] at h
  rcases h with rfl | rfl | rfl <;> rfl

theorem isBreak_of_isEdge {c : Char} (h : isEdge c = false) : isBreak c = false := by
  rw [Bool.eq_false_iff] at h ⊢
  exact mt isEdge_of_isBreak h

theorem cleanFront_append {cs : List Char} (h : cs.dropWhile isEdge ≠ []) (more : List Char) :
    cleanFront (cs ++ more) = cleanFront cs ++ more.filter fun c => !isBreak c := by
  have some : ¬(cs.dropWhile isEdge).isEmpty = true := by simpa using h
  rw [cleanFront, List.dropWhile_append, if_neg some, List.filter_append]
  rfl

theorem reverse_dropWhile_append {c : Char} (h : isEdge c = false) (xs ys : List Char) :
    ((xs ++ c :: ys).reverse.dropWhile isEdge).reverse =
      xs ++ c :: (ys.reverse.dropWhile isEdge).reverse := by
  rw [List.reverse_append, List.reverse_cons, List.append_assoc, List.singleton_append,
    List.dropWhile_append, List.dropWhile_cons_of_neg (by simp [h])]
  split
  case isTrue none => simp [List.isEmpty_iff.1 none]
  case isFalse => simp

/-- A character that says something parts what is cleaned at its front from what is at its end. -/
theorem clean_append {cs : List Char} {c : Char} (hc : isEdge c = false)
    (h : cs.dropWhile isEdge ≠ []) (more : List Char) :
    clean (cs ++ c :: more) = cleanFront cs ++ c :: cleanBack more := by
  have some : ¬(cs.dropWhile isEdge).isEmpty = true := by simpa using h
  rw [clean, List.dropWhile_append, if_neg some, reverse_dropWhile_append hc, List.filter_append,
    List.filter_cons_of_pos (by simp [isBreak_of_isEdge hc])]
  rfl

/-- Characters that say nothing are left out at the end. -/
theorem cleanFront_eq (cs : List Char) :
    ∃ edges, (∀ c ∈ edges, isEdge c = true) ∧ cleanFront cs = clean cs ++ edges := by
  let d := cs.dropWhile isEdge
  refine ⟨(d.reverse.takeWhile isEdge).reverse.filter fun c => !isBreak c, fun c hc => ?_, ?_⟩
  · have mem := (List.mem_filter.1 hc).1
    exact List.mem_takeWhile_imp (List.mem_reverse.1 mem)
  · have whole : d =
        (d.reverse.dropWhile isEdge).reverse ++ (d.reverse.takeWhile isEdge).reverse := by
      rw [← List.reverse_append, List.takeWhile_append_dropWhile, List.reverse_reverse]
    rw [cleanFront, clean, ← List.filter_append, ← whole]

/-! ## Schemes -/

theorem not_isScheme {c : Char} (h : isEdge c = true ∨ isSlash c = true) : isScheme c = false := by
  rcases h with edge | slash
  · have all : ∀ n ≤ 0x20, isScheme (Char.ofNat n) = false := by decide
    have := all c.toNat (of_decide_eq_true edge)
    rwa [Char.ofNat_toNat] at this
  · simp only [isSlash, Bool.or_eq_true, beq_iff_eq] at slash
    rcases slash with rfl | rfl <;> decide

theorem scheme?_eq_some_iff {cs scheme rest : List Char} :
    scheme? cs = some (scheme, rest) ↔ ∃ c name, c.isAlpha = true ∧
      (∀ d ∈ c :: name, isScheme d = true) ∧ scheme = (c :: name).map Char.toLower ∧
      cs = c :: name ++ ':' :: rest := by
  constructor
  · intro h
    unfold scheme? at h
    split at h
    case h_1 c name rest' ht hd =>
      split at h
      case isTrue alpha =>
        cases h
        refine ⟨c, name, alpha, fun d hm => ?_, rfl, ?_⟩
        · rw [← ht] at hm
          exact List.mem_takeWhile_imp hm
        · rw [← ht, ← hd, List.takeWhile_append_dropWhile]
      case isFalse => cases h
    case h_2 => cases h
  · rintro ⟨c, name, alpha, all, rfl, rfl⟩
    have colon : ¬isScheme ':' = true := by decide
    have front : (c :: name ++ ':' :: rest).takeWhile isScheme = c :: name := by
      rw [List.takeWhile_append_of_pos all, List.takeWhile_cons_of_neg colon, List.append_nil]
    have back : (c :: name ++ ':' :: rest).dropWhile isScheme = ':' :: rest := by
      rw [List.dropWhile_append_of_pos all, List.dropWhile_cons_of_neg colon]
    rw [scheme?, front, back]
    exact if_pos alpha

/-! ## Authorities -/

/-- Whether a character may stand in the authority of an address with a common scheme. -/
def inAuthority (c : Char) : Bool := !isSlash c && c != '#' && c != '?'

/-- The authority in what follows the colon of a common scheme. -/
def authorityText (cs : List Char) : List Char := (cs.dropWhile isSlash).takeWhile inAuthority

theorem isSlash_edge {c : Char} (h : isEdge c = true) : isSlash c = false := by
  simp [isSlash, ne_of_isEdge (d := '/') h rfl, ne_of_isEdge (d := '\\') h rfl]

theorem inAuthority_edge {c : Char} (h : isEdge c = true) : inAuthority c = true := by
  simp [inAuthority, isSlash_edge h, ne_of_isEdge (d := '#') h rfl, ne_of_isEdge (d := '?') h rfl]

theorem fst_cut (mark : Char) (cs : List Char) : (cut mark cs).1 = cs.takeWhile (· != mark) := by
  rw [cut]
  split
  case h_1 none =>
    have := List.takeWhile_append_dropWhile (p := (· != mark)) (l := cs)
    rw [none, List.append_nil] at this
    exact this.symm
  case h_2 => rfl

theorem dropWhile_takeWhile {p q : Char → Bool} (h : ∀ c, p c = true → q c = true)
    (cs : List Char) : (cs.takeWhile q).dropWhile p = (cs.dropWhile p).takeWhile q := by
  induction cs with
  | nil => rfl
  | cons c cs ih =>
    by_cases hp : p c = true
    · rw [List.takeWhile_cons_of_pos (h c hp), List.dropWhile_cons_of_pos hp,
        List.dropWhile_cons_of_pos hp, ih]
    · rw [List.dropWhile_cons_of_neg hp]
      by_cases hq : q c = true
      · rw [List.takeWhile_cons_of_pos hq, List.dropWhile_cons_of_neg hp]
      · rw [List.takeWhile_cons_of_neg hq]
        rfl

theorem authorityText_eq (cs : List Char) :
    (((cut '?' (cut '#' cs).1).1).dropWhile isSlash).takeWhile (fun c => !isSlash c) =
      authorityText cs := by
  have slash (mark : Char) (hm : isSlash mark = false) :
      ∀ c, isSlash c = true → (c != mark) = true := by
    rintro c hc
    rw [bne_iff_ne]
    rintro rfl
    rw [hm] at hc
    cases hc
  rw [fst_cut, fst_cut, dropWhile_takeWhile (slash '?' rfl), dropWhile_takeWhile (slash '#' rfl),
    List.takeWhile_takeWhile, List.takeWhile_takeWhile, authorityText]
  congr 1
  funext c
  rw [Bool.eq_iff_iff]
  simp only [inAuthority, Bool.and_eq_true, decide_eq_true_eq]
  exact and_right_comm

/-- The scheme and the authority of an address with a common scheme. -/
theorem read_common {text : String} {scheme cs : List Char} {usual : Nat}
    (h : scheme? (clean text.toList) = some (scheme, cs))
    (kind : Kind.ofScheme scheme = .common usual) :
    (Url.read text).map (fun url => (url.scheme, url.authority)) =
      (common usual (authorityText cs)).map fun a => (scheme, some a) := by
  rw [← authorityText_eq, Url.read, h]
  simp only [kind, rest, commonRest]
  cases common usual (((cut '?' (cut '#' cs).1).1.dropWhile isSlash).takeWhile fun c =>
    !isSlash c) <;> rfl

/-- The authority of an address with a common scheme, if it is read, is that of the text. -/
theorem common_of_read {url : Url} {text : String} {cs : List Char} {usual : Nat}
    (h : scheme? (clean text.toList) = some (url.scheme, cs))
    (kind : Kind.ofScheme url.scheme = .common usual) (hu : Url.read text = .ok url) :
    ∃ a, common usual (authorityText cs) = .ok a ∧ url.authority = some a := by
  have parts := read_common h kind
  rw [hu] at parts
  cases hc : common usual (authorityText cs) with
  | error e => rw [hc] at parts; cases parts
  | ok a =>
    rw [hc] at parts
    exact ⟨a, rfl, (Prod.mk.inj (Except.ok.inj parts)).2⟩

theorem read_of_common {text : String} {scheme cs : List Char} {usual : Nat} {a : Authority}
    (h : scheme? (clean text.toList) = some (scheme, cs))
    (kind : Kind.ofScheme scheme = .common usual) (hc : common usual (authorityText cs) = .ok a) :
    ∃ url, Url.read text = .ok url ∧ url.scheme = scheme ∧ url.authority = some a := by
  have parts := read_common h kind
  rw [hc] at parts
  cases hu : Url.read text with
  | error e => rw [hu] at parts; cases parts
  | ok url =>
    rw [hu] at parts
    obtain ⟨hs, ha⟩ := Prod.mk.inj (Except.ok.inj parts)
    exact ⟨url, rfl, hs, ha⟩

theorem scheme?_of_read {text : String} {url : Url} (h : Url.read text = .ok url) :
    ∃ cs, scheme? (clean text.toList) = some (url.scheme, cs) := by
  rw [Url.read] at h
  split at h
  case h_1 => cases h
  case h_2 scheme cs hs =>
    refine ⟨cs, hs.trans ?_⟩
    obtain ⟨parts, -, h⟩ := Except.bind_eq_ok.1 h
    cases h
    rfl

/-! ## Servers with slashes at their end -/

theorem authorityText_append {cs : List Char} (h : ¬∀ c ∈ cs, isSlash c = true) (more : List Char) :
    authorityText (cs ++ '/' :: more) = authorityText cs := by
  have some : ¬(cs.dropWhile isSlash).isEmpty = true := by
    simpa [List.dropWhile_eq_nil_iff] using h
  rw [authorityText, List.dropWhile_append, if_neg some, List.takeWhile_append]
  split
  case isTrue whole =>
    rw [List.takeWhile_cons_of_neg (by decide), List.append_nil, authorityText]
    exact ((List.takeWhile_prefix inAuthority).eq_of_length whole).symm
  case isFalse => rfl

theorem authorityText_eq_nil {cs : List Char} (h : ∀ c ∈ cs, isSlash c = true) :
    authorityText cs = [] := by
  rw [authorityText, List.dropWhile_eq_nil_iff.2 h]
  rfl

/-- After slashes alone, what is appended to a server starts with the authority. -/
theorem authorityText_slashes {cs segment : List Char} (h : ∀ c ∈ cs, isSlash c = true)
    (some : segment ≠ []) (hs : ∀ c ∈ segment, inAuthority c = true) (more : List Char) :
    authorityText (cs ++ '/' :: (segment ++ '/' :: more)) = segment := by
  obtain ⟨c, segment, rfl⟩ := List.exists_cons_of_ne_nil some
  have first : ¬isSlash c = true := by
    have := hs c List.mem_cons_self
    simp only [inAuthority, Bool.and_eq_true, Bool.not_eq_true'] at this
    simp [this.1.1]
  rw [authorityText, List.dropWhile_append_of_pos h, List.dropWhile_cons_of_pos rfl,
    List.cons_append, List.dropWhile_cons_of_neg first, ← List.cons_append,
    List.takeWhile_append_of_pos hs, List.takeWhile_cons_of_neg (by decide), List.append_nil]

theorem authorityText_replicate (cs : List Char) (n : Nat) :
    authorityText (cs ++ List.replicate n '/') = authorityText cs := by
  by_cases h : ∀ c ∈ cs, isSlash c = true
  · rw [authorityText_eq_nil h, authorityText_eq_nil]
    intro c hc
    rcases List.mem_append.1 hc with hc | hc
    · exact h c hc
    · rw [List.eq_of_mem_replicate hc]
      rfl
  · cases n with
    | zero => rw [List.replicate_zero, List.append_nil]
    | succ n => exact authorityText_append h _

/-- Characters that say nothing stand at the end of an authority, or after it. -/
theorem authorityText_edges {edges : List Char} (he : ∀ c ∈ edges, isEdge c = true)
    (cs : List Char) :
    authorityText (cs ++ edges) = authorityText cs ∨
      ∃ front e, isEdge e = true ∧ authorityText (cs ++ edges) = front ++ [e] := by
  rcases List.eq_nil_or_concat edges with rfl | ⟨before, e, rfl⟩
  · exact .inl (congrArg authorityText (List.append_nil cs))
  · have last := he e (by simp)
    have slash : ∀ c ∈ before.concat e, isSlash c = false := fun c hc => isSlash_edge (he c hc)
    have inner : ∀ c ∈ before.concat e, inAuthority c = true := fun c hc =>
      inAuthority_edge (he c hc)
    rw [authorityText, List.dropWhile_append]
    split
    · rw [dropWhile_eq_self slash, List.takeWhile_eq_self_iff.2 inner, List.concat_eq_append]
      exact .inr ⟨_, e, last, rfl⟩
    · rw [List.takeWhile_append]
      split
      · rw [List.takeWhile_eq_self_iff.2 inner, List.concat_eq_append, ← List.append_assoc]
        exact .inr ⟨_, e, last, rfl⟩
      · exact .inl rfl

theorem eq_append_of_append {xs ys front rest : List Char} (h : xs ++ ys = front ++ rest)
    (apart : ∀ y ∈ ys.head?, y ∉ front) : ∃ inside, xs = front ++ inside ∧ rest = inside ++ ys := by
  rcases List.append_eq_append_iff.1 h with ⟨between, hf, hy⟩ | ⟨inside, hx, hr⟩
  · cases between with
    | nil => exact ⟨[], by rw [hf, List.append_nil, List.append_nil], hy.symm⟩
    | cons y between => exact absurd (hf ▸ by simp) (apart y (hy ▸ rfl))
  · exact ⟨inside, hx, hr⟩

/-- A server and its target have the same scheme, whose colon stands in the server, before what says
nothing at its end and before the slashes there. -/
theorem scheme?_server {cs segment more scheme rest : List Char} (slashes : Nat)
    (visible : ∀ c ∈ segment, isEdge c = false)
    (h : scheme? (clean (cs ++ '/' :: (segment ++ '/' :: more))) = some (scheme, rest)) :
    ∃ inside edges after, (∀ c ∈ edges, isEdge c = true) ∧
      rest = inside ++ edges ++ '/' :: (segment ++ '/' :: after) ∧
      scheme? (cleanFront (cs ++ List.replicate slashes '/')) =
        some (scheme, inside ++ edges ++ List.replicate slashes '/') ∧
      scheme? (clean (cs ++ List.replicate slashes '/')) =
        some (scheme, inside ++ List.replicate slashes '/') := by
  have some : cs.dropWhile isEdge ≠ [] := by
    intro none
    have first : clean (cs ++ '/' :: (segment ++ '/' :: more)) =
        '/' :: ((segment ++ '/' :: more).reverse.dropWhile isEdge).reverse.filter fun c =>
          !isBreak c := by
      have all := List.dropWhile_eq_nil_iff.1 none
      rw [clean, List.dropWhile_append_of_pos all, List.dropWhile_cons_of_neg (by decide)]
      exact congrArg (List.filter _) (reverse_dropWhile_append (c := '/') rfl [] _)
    obtain ⟨c, name, alpha, -, -, hc⟩ := scheme?_eq_some_iff.1 h
    rw [first] at hc
    obtain rfl := (List.cons.inj hc).1
    exact absurd alpha (by decide)
  have more' (xs : List Char) : (cs ++ xs).dropWhile isEdge ≠ [] := by
    rw [List.dropWhile_append, if_neg (by simpa using some)]
    exact List.append_ne_nil_of_left_ne_nil some xs
  have kept : ('/' :: segment).filter (fun c => !isBreak c) = '/' :: segment := by
    refine List.filter_eq_self.2 fun c hc => ?_
    rcases List.mem_cons.1 hc with rfl | hc
    · rfl
    · simp [isBreak_of_isEdge (visible c hc)]
  rw [← List.cons_append, ← List.append_assoc, clean_append (c := '/') rfl (more' _),
    cleanFront_append some, kept, List.append_assoc] at h
  obtain ⟨c, name, alpha, letters, rfl, split⟩ := scheme?_eq_some_iff.1 h
  have front (xs : List Char) : c :: name ++ ':' :: xs = c :: name ++ [':'] ++ xs := by simp
  have spells (xs : List Char) : scheme? (c :: name ++ [':'] ++ xs) =
      Option.some ((c :: name).map Char.toLower, xs) :=
    front xs ▸ scheme?_eq_some_iff.2 ⟨c, name, alpha, letters, rfl, rfl⟩
  -- Neither a slash nor what says nothing stands in the scheme or is its colon.
  have apart {d : Char} (hd : isEdge d = true ∨ isSlash d = true) : d ∉ c :: name ++ [':'] := by
    intro hm
    rcases List.mem_append.1 hm with hm | hm
    · exact Bool.false_ne_true ((not_isScheme hd).symm.trans (letters d hm))
    · rw [List.mem_singleton.1 hm] at hd
      exact absurd hd (by decide)
  rw [front] at split
  obtain ⟨within, hw, rfl⟩ := eq_append_of_append split (by
    rintro _ ⟨⟩
    exact apart (.inr rfl))
  have server (n : Nat) : cleanFront (cs ++ List.replicate n '/') =
      c :: name ++ [':'] ++ (within ++ List.replicate n '/') := by
    have slashes : (List.replicate n '/').filter (fun c => !isBreak c) = List.replicate n '/' :=
      List.filter_eq_self.2 fun d hd => by rw [List.eq_of_mem_replicate hd]; rfl
    rw [cleanFront_append some, slashes, hw, List.append_assoc]
  cases slashes with
  | zero =>
    obtain ⟨edges, he, hc⟩ := cleanFront_eq cs
    rw [hw] at hc
    obtain ⟨inside, hi, rfl⟩ := eq_append_of_append hc.symm fun y hy =>
      apart (.inl (he y (List.mem_of_mem_head? hy)))
    refine ⟨inside, edges, cleanBack more, he, by simp, by rw [server, spells], ?_⟩
    rw [List.replicate_zero, List.append_nil, List.append_nil, hi, spells]
  | succ n =>
    refine ⟨within, [], cleanBack more, List.forall_mem_nil _, by simp,
      by rw [server, spells, List.append_nil], ?_⟩
    have last : clean (cs ++ List.replicate (n + 1) '/') =
        cleanFront (cs ++ List.replicate n '/') ++ '/' :: cleanBack [] := by
      rw [List.replicate_succ', ← List.append_assoc]
      exact clean_append rfl (more' _) []
    rw [last, server, List.replicate_succ', List.append_assoc (c :: name ++ [':']),
      List.append_assoc within]
    exact spells _

end Reader

end Url

end GatewayDesk
