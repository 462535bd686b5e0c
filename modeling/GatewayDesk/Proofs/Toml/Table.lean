import GatewayDesk.Toml.Document

/-!
# Tables under construction

A document is written from front to back, so every statement works on the last table of the last
table. `within_last` follows a key to the last table, and `foldlM_pairs` is an induction on the
pairs under a header.

`foldlM_table`: what a header and its pairs add to a document.
-/

namespace GatewayDesk

namespace Toml

namespace Table

variable {members inner : Members} {key : String} {value : Value}

/-- Whether a table has no value of a key. -/
def Lacks (members : Members) (key : String) : Prop := ∀ m ∈ members, m.1 ≠ key

theorem lookup_last (h : Lacks members key) (value : Value) :
    (members ++ [(key, value)]).lookup key = some value := by
  induction members with
  | nil => simp
  | cons m members ih =>
    have hm : (key == m.1) = false := by
      rw [beq_eq_false_iff_ne]
      exact (h m List.mem_cons_self).symm
    rw [List.cons_append, List.lookup_cons, hm]
    exact ih fun n hn => h n (List.mem_cons_of_mem _ hn)

theorem lookup_eq_none (h : Lacks members key) : members.lookup key = none := by
  induction members with
  | nil => rfl
  | cons m members ih =>
    have hm : (key == m.1) = false := by
      rw [beq_eq_false_iff_ne]
      exact (h m List.mem_cons_self).symm
    rw [List.lookup_cons, hm]
    exact ih fun n hn => h n (List.mem_cons_of_mem _ hn)

theorem replace_last (h : Lacks members key) (old value : Value) :
    replace key value (members ++ [(key, old)]) = members ++ [(key, value)] := by
  induction members with
  | nil => simp [replace]
  | cons m members ih =>
    have hm : ¬((m.1 == key) = true) := by simpa using h m List.mem_cons_self
    rw [List.cons_append, replace, if_neg hm, ih fun n hn => h n (List.mem_cons_of_mem _ hn)]
    rfl

/-! ## Steps -/

/-- A new key goes to the end. -/
theorem define_new (h : Lacks members key) (value : Value) :
    define members [key] value = some (members ++ [(key, value)]) := by
  rw [define, lookup_eq_none h]

theorem start_new (h : Lacks members key) :
    start key members = some (members ++ [(key, .table .header [])]) := by
  rw [start, lookup_eq_none h]

/-- A key leads to the last table. -/
theorem within_last (h : Lacks members key) {origin : Origin} (ho : origin ≠ .braces)
    (change : Members → Option Members) (keys : List String) :
    within change (members ++ [(key, .table origin inner)]) (key :: keys) =
      (within change inner keys).map fun inner => members ++ [(key, .table origin inner)] := by
  rw [within, lookup_last h]
  cases origin with
  | braces => exact absurd rfl ho
  | _ =>
    simp only [replace_last h, Option.bind_eq_bind]
    cases within change inner keys <;> rfl

/-- A key that is not there implies a table. -/
theorem within_new (h : Lacks members key) (change : Members → Option Members)
    (keys : List String) :
    within change members (key :: keys) =
      (within change [] keys).map fun inner => members ++ [(key, .table .implied inner)] := by
  rw [within, lookup_eq_none h]
  cases within change [] keys <;> rfl

/-! ## Tables inside an implied one -/

/-- A document whose last table, if it is not empty, is implied by the headers inside it. -/
def document (before : Members) (outer : String) (inner : Members) : Members :=
  before ++ if inner = [] then [] else [(outer, .table .implied inner)]

variable {before done : Members} {outer name : String}

theorem document_append (before : Members) (outer : String) (done : Members) (key : String)
    (value : Value) :
    document before outer (done ++ [(key, value)]) =
      before ++ [(outer, .table .implied (done ++ [(key, value)]))] := by
  rw [document, if_neg (by simp)]

/-- A header inside the implied table. -/
theorem openTable_new (hb : Lacks before outer) (hd : Lacks done name) :
    openTable (document before outer done) [outer, name] =
      some (document before outer (done ++ [(name, .table .header [])])) := by
  rw [document_append]
  -- The first table inside makes the implied one; the others find it last.
  show within (start name) (document before outer done) [outer] = _
  by_cases empty : done = []
  · rw [document, if_pos empty, List.append_nil, within_new hb, within, start_new (by simp [Lacks]),
      empty]
    rfl
  · rw [document, if_neg empty, within_last hb (by decide), within, start_new hd]
    rfl

end Table

namespace Document

open Toml.Table

variable {before done pairs : Members} {outer name key : String}

/-- A pair under the last header. -/
theorem perform_pair (hb : Lacks before outer) (hd : Lacks done name) (hp : Lacks pairs key)
    (value : Value) :
    perform ⟨document before outer (done ++ [(name, .table .header pairs)]), [outer, name]⟩
        (.pair [key] value) =
      some ⟨document before outer (done ++ [(name, .table .header (pairs ++ [(key, value)]))]),
        [outer, name]⟩ := by
  rw [document_append, document_append, perform, within_last hb (by decide),
    within_last hd (by decide), within, define_new hp]
  rfl

/-- The pairs under the last header go into its table, after those that are there. -/
theorem foldlM_pairs (hb : Lacks before outer) (hd : Lacks done name) (pairs more : Members)
    (distinct : ((pairs ++ more).map Prod.fst).Nodup) :
    (more.map fun m => Statement.pair [m.1] m.2).foldlM perform
        ⟨document before outer (done ++ [(name, .table .header pairs)]), [outer, name]⟩ =
      some ⟨document before outer (done ++ [(name, .table .header (pairs ++ more))]),
        [outer, name]⟩ := by
  induction more generalizing pairs with
  | nil => rw [List.append_nil]; rfl
  | cons m more ih =>
    have lacks : Lacks pairs m.1 := by
      intro n hn he
      rw [List.map_append, List.nodup_append] at distinct
      exact distinct.2.2 _ (List.mem_map_of_mem hn) _ List.mem_cons_self he
    have whole : pairs ++ [m] ++ more = pairs ++ m :: more := by simp
    rw [List.map_cons, List.foldlM_cons, perform_pair hb hd lacks]
    show (more.map fun m => Statement.pair [m.1] m.2).foldlM perform _ = _
    rw [ih (pairs ++ [m]) (by rwa [whole]), whole]

/-- The statements of a table inside the implied one. -/
theorem foldlM_table (hb : Lacks before outer) (hd : Lacks done name) (pairs : Members)
    (distinct : (pairs.map Prod.fst).Nodup) (here : List String) :
    (Statement.table [outer, name] :: pairs.map fun m => .pair [m.1] m.2).foldlM perform
        ⟨document before outer done, here⟩ =
      some ⟨document before outer (done ++ [(name, .table .header pairs)]), [outer, name]⟩ := by
  rw [List.foldlM_cons, perform, openTable_new hb hd]
  exact foldlM_pairs hb hd [] pairs distinct

end Document

end Toml

end GatewayDesk
