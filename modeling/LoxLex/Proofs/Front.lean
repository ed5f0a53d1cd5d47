import LoxLex.Proofs.Cut
import Mathlib.Data.List.Basic

/-!
# Fronts

A front is the part of a text that some pieces take, with the rest of the text still to be cut. A piece is
told from the first character behind it, and only a numeral looks one further, so another rest may follow a
front if its last piece can end there too. The items of a front are those of its pieces.
-/

namespace LoxLex

/-- With `r` behind it, `b` is cut into the pieces `ps`. -/
inductive Front (r : List Char) : List Char → List (Shape × List Char) → Prop
  | nil : Front r [] []
  | cons {k p b ps} : Next k p (b ++ r) → Front r b ps → Front r (p ++ b) ((k, p) :: ps)

section
variable {k : Shape} {p r r' b cs : List Char} {ps qs : List (Shape × List Char)}

theorem Cut.front (h : Cut cs ps) : Front [] cs ps := by
  induction h with
  | nil => exact .nil
  | cons hn _ ih => exact .cons (by rwa [List.append_nil]) ih

theorem Front.cut (h : Front r b ps) (hr : Cut r qs) : Cut (b ++ r) (ps ++ qs) := by
  induction h with
  | nil => exact hr
  | cons hn _ ih =>
    rw [List.append_assoc]
    exact .cons hn ih

theorem Front.eq_nil (h : Front r b []) : b = [] := by
  cases h
  rfl

theorem Front.ne_nil {q : Shape × List Char} (h : Front r b (q :: ps)) : b ≠ [] := by
  cases h with
  | cons hn _ => exact fun e => hn.ne_nil (List.append_eq_nil_iff.mp e).1

theorem Front.getLast?_eq (h : Front r b ps) {q : Shape × List Char} (hq : ps.getLast? = some q) :
    q.2.getLast? = b.getLast? := by
  induction h with
  | nil => cases hq
  | @cons k p b ps _ hf ih =>
    cases ps with
    | nil =>
      obtain rfl := hf.eq_nil
      obtain rfl : (k, p) = q := Option.some.inj hq
      rw [List.append_nil]
    | cons q' ps =>
      rw [List.getLast?_append_of_ne_nil _ hf.ne_nil]
      exact ih (by rwa [List.getLast?_cons_cons] at hq)

theorem Next.rest_eq_nil (h : Next .openString p r) : r = [] := by
  cases h
  rfl

/-! ## What is seen of the rest -/

theorem Stops.of_head? {f : Char → Bool} (h : Stops f r) (hh : r'.head? = r.head?) : Stops f r' :=
  fun c hc => h c (hh ▸ hc)

theorem Next.of_head? (h : Next k p r) (hk : k ≠ .openString) (hh : r'.head? = r.head?)
    (hp : NoPoint r → NoPoint r') : Next k p r' := by
  cases h with
  | blank hc => exact .blank hc
  | comment ht hr => exact .comment ht (hr.of_head? hh)
  | mark hr => exact .mark fun c hc => hr c (hh ▸ hc)
  | string ht => exact .string ht
  | whole hd hr hn => exact .whole hd (hr.of_head? hh) (hp hn)
  | pointed hd he hr => exact .pointed hd he (hr.of_head? hh)
  | word hc ht hr => exact .word hc ht (hr.of_head? hh)
  | openString => exact absurd rfl hk
  | stray hc => exact .stray hc

theorem NoPoint.change {c : Char} (hd : (c :: b).getLast? = some '.' → Stops Char.isDigit r')
    (h : NoPoint (c :: b ++ r)) : NoPoint (c :: b ++ r') := by
  intro hc
  obtain rfl : c = '.' := Option.some.inj hc
  cases b with
  | nil => exact hd rfl
  | cons d b => exact (h rfl).of_head? rfl

/-- Another rest may follow a front in which no string is open. -/
theorem Front.change (h : Front r b ps) (ho : ∀ q ∈ ps, q.1 ≠ .openString)
    (hd : b.getLast? = some '.' → Stops Char.isDigit r')
    (hl : ∀ q, ps.getLast? = some q → Next q.1 q.2 r → Next q.1 q.2 r') : Front r' b ps := by
  induction h with
  | nil => exact .nil
  | @cons k p b ps hn hf ih =>
    obtain ⟨hk, ho⟩ := List.forall_mem_cons.mp ho
    cases ps with
    | nil =>
      obtain rfl := hf.eq_nil
      exact .cons (hl _ rfl hn) .nil
    | cons q ps =>
      obtain ⟨c, t, rfl⟩ := List.exists_cons_of_ne_nil hf.ne_nil
      rw [List.getLast?_append_cons] at hd
      rw [List.getLast?_cons_cons] at hl
      exact .cons (hn.of_head? hk rfl (NoPoint.change hd)) (ih ho hd hl)

end

/-! ## Items of a front -/

section
variable {r b : List Char} {ps qs : List (Shape × List Char)} {line : Nat}

theorem Front.flatten (h : Front r b ps) : (ps.map Prod.snd).flatten = b := by
  induction h with
  | nil => rfl
  | cons _ _ ih => rw [List.map_cons, List.flatten_cons, ih]

theorem Cut.flatten {cs : List Char} (h : Cut cs ps) : (ps.map Prod.snd).flatten = cs := h.front.flatten

theorem Front.itemsFrom_append (h : Front r b ps) :
    itemsFrom line (ps ++ qs) = itemsOf line ps ++ itemsFrom (line + b.count '\n') qs := by
  rw [LoxLex.itemsFrom_append, h.flatten]

theorem Front.itemsOf_append (h : Front r b ps) :
    itemsOf line (ps ++ qs) = itemsOf line ps ++ itemsOf (line + b.count '\n') qs := by
  rw [LoxLex.itemsOf_append, h.flatten]

theorem Cut.itemsFrom_eq {cs : List Char} (h : Cut cs ps) :
    itemsFrom line ps = itemsOf line ps ++ [.token (.endOfFile (line + cs.count '\n'))] := by
  rw [itemsFrom, h.flatten]

/-- A string that is left open is told. -/
theorem closed_of_itemsOf (h : ∀ n, .diagnostic (.unterminatedString n) ∉ itemsOf line ps) :
    ∀ q ∈ ps, q.1 ≠ .openString := by
  induction ps generalizing line with
  | nil => simp
  | cons q ps ih =>
    obtain ⟨k, p⟩ := q
    refine List.forall_mem_cons.mpr ⟨?_, ih fun n hn => h n (List.mem_append_right _ hn)⟩
    rintro rfl
    exact h _ (List.mem_append_left _ (List.mem_singleton_self _))

end

/-! ## Later lines -/

def Item.raise (n : Nat) : Item → Item
  | .token t => .token { t with line := t.line + n }
  | .diagnostic d => .diagnostic { d with line := d.line + n }

theorem Shape.item?_add (k : Shape) (line n : Nat) (p : List Char) :
    k.item? (line + n) p = (k.item? line p).map (Item.raise n) := by
  cases k with
  | openString => simp [item?, Item.raise, Diagnostic.unterminatedString, Nat.add_right_comm]
  | _ => rfl

theorem itemsOf_add (line n : Nat) (ps : List (Shape × List Char)) :
    itemsOf (line + n) ps = (itemsOf line ps).map (Item.raise n) := by
  induction ps generalizing line with
  | nil => rfl
  | cons q ps ih =>
    rw [itemsOf, Shape.item?_add, Nat.add_right_comm, ih, itemsOf, List.map_append]
    cases q.1.item? line q.2 <;> rfl

theorem itemsFrom_add (line n : Nat) (ps : List (Shape × List Char)) :
    itemsFrom (line + n) ps = (itemsFrom line ps).map (Item.raise n) := by
  rw [itemsFrom, itemsOf_add, itemsFrom, List.map_append, Nat.add_right_comm]
  rfl

end LoxLex
