import LoxLex.Proofs.Round

/-!
# A text cut into pieces

The rounds of a lexer cut its text into pieces, each the next one of what is left. The stream of items is
then read off the pieces: every piece gives its item, dated by the line feeds before it, and after the last
comes the end of the text. Everything else that is known about streams follows from the pieces.
-/

namespace LoxLex

inductive Cut : List Char → List (Shape × List Char) → Prop
  | nil : Cut [] []
  | cons {k p r ps} : Next k p r → Cut r ps → Cut (p ++ r) ((k, p) :: ps)

theorem exists_cut : ∀ cs : List Char, ∃ ps, Cut cs ps
  | [] => ⟨[], .nil⟩
  | c :: cs => by
    obtain ⟨k, p, r, e, h⟩ := exists_next c cs
    have hlt : r.length < (c :: cs).length := by
      have := List.length_pos_iff.mpr h.ne_nil
      rw [e, List.length_append]
      omega
    obtain ⟨ps, hps⟩ := exists_cut r
    exact ⟨(k, p) :: ps, e ▸ .cons h hps⟩
termination_by cs => cs.length
decreasing_by exact hlt

theorem Cut.unique {cs : List Char} {ps qs : List (Shape × List Char)} (h : Cut cs ps) (h' : Cut cs qs) :
    ps = qs := by
  induction h generalizing qs with
  | nil =>
    generalize hcs : ([] : List Char) = cs at h'
    cases h' with
    | nil => rfl
    | cons hn => exact absurd (List.append_eq_nil_iff.mp hcs.symm).1 hn.ne_nil
  | @cons k p r ps hn _ ih =>
    generalize hcs : p ++ r = cs at h'
    cases h' with
    | nil => exact absurd (List.append_eq_nil_iff.mp hcs).1 hn.ne_nil
    | cons hn' hr' =>
      obtain ⟨rfl, rfl, rfl⟩ := next_unique hn hn' hcs
      rw [ih hr']

theorem Cut.next_of_mem {cs : List Char} {ps : List (Shape × List Char)} (h : Cut cs ps) :
    ∀ q ∈ ps, ∃ r, Next q.1 q.2 r := by
  induction h with
  | nil => exact nofun
  | cons hn _ ih => exact List.forall_mem_cons.mpr ⟨⟨_, hn⟩, ih⟩

/-! ## Items of pieces -/

/-- The items of pieces of which the first begins on this line. -/
def itemsOf (line : Nat) : List (Shape × List Char) → List Item
  | [] => []
  | (k, p) :: ps => (k.item? line p).toList ++ itemsOf (line + p.count '\n') ps

/-- The items of pieces up to the end of the text, which is on the line behind them all. -/
def itemsFrom (line : Nat) (ps : List (Shape × List Char)) : List Item :=
  itemsOf line ps ++ [.token (.endOfFile (line + (ps.map Prod.snd).flatten.count '\n'))]

section
variable {line : Nat} {k : Shape} {p : List Char} {ps : List (Shape × List Char)}

theorem itemsOf_append (line : Nat) (ps qs : List (Shape × List Char)) : itemsOf line (ps ++ qs) =
    itemsOf line ps ++ itemsOf (line + (ps.map Prod.snd).flatten.count '\n') qs := by
  induction ps generalizing line with
  | nil => rfl
  | cons q ps ih =>
    rw [List.cons_append, itemsOf, ih, itemsOf, List.map_cons, List.flatten_cons, List.count_append,
      List.append_assoc, Nat.add_assoc]

theorem itemsFrom_append (line : Nat) (ps qs : List (Shape × List Char)) : itemsFrom line (ps ++ qs) =
    itemsOf line ps ++ itemsFrom (line + (ps.map Prod.snd).flatten.count '\n') qs := by
  rw [itemsFrom, itemsOf_append, itemsFrom, List.map_append, List.flatten_append, List.count_append,
    List.append_assoc, Nat.add_assoc]

theorem itemsFrom_nil : itemsFrom line [] = [.token (.endOfFile line)] := rfl

theorem itemsFrom_cons :
    itemsFrom line ((k, p) :: ps) = (k.item? line p).toList ++ itemsFrom (line + p.count '\n') ps := by
  simpa [itemsOf] using itemsFrom_append line [(k, p)] ps

theorem itemsFrom_comment {t : List Char} (ht : '\n' ∉ t) (line : Nat) (ps : List (Shape × List Char)) :
    itemsFrom line ((.comment, '/' :: '/' :: t) :: ps) = itemsFrom line ps := by
  rw [itemsFrom_cons, count_comment ht]
  rfl

theorem itemsFrom_blank (c : Char) (line : Nat) (ps : List (Shape × List Char)) :
    itemsFrom line ((.blank, [c]) :: ps) = itemsFrom (line + [c].count '\n') ps := itemsFrom_cons

theorem exists_of_mem_itemsOf {i : Item} (h : i ∈ itemsOf line ps) : ∃ q ∈ ps, ∃ m, q.1.item? m q.2 = some i := by
  induction ps generalizing line with
  | nil => cases h
  | cons q ps ih =>
    rcases List.mem_append.mp h with h | h
    · exact ⟨q, List.mem_cons_self, line, Option.mem_toList.mp h⟩
    · obtain ⟨q', hq, hi⟩ := ih h
      exact ⟨q', List.mem_cons_of_mem _ hq, hi⟩

theorem not_end_of_mem_itemsOf {i : Item} (h : i ∈ itemsOf line ps) : i.hasKind .endOfFile = false := by
  obtain ⟨q, -, m, hi⟩ := exists_of_mem_itemsOf h
  cases i with
  | token t => exact decide_eq_false (Shape.item?_token hi).2.2.1
  | diagnostic => rfl

end

namespace Lexer
variable {l : Lexer}

/-! ## The stream in rounds -/

def rounds (l : Lexer) : List (Option String) :=
  match _h : l.cursor.rest with
  | [] => []
  | c :: _ => (l.round c).2.lexeme? :: rounds (l.round c).2
termination_by l.left
decreasing_by exact left_round_lt _h

theorem rounds_nil (h : l.cursor.rest = []) : l.rounds = [] := by
  rw [rounds]; split <;> simp_all

theorem rounds_cons {c : Char} {cs : List Char} (h : l.cursor.rest = c :: cs) :
    l.rounds = (l.round c).2.lexeme? :: (l.round c).2.rounds := by
  rw [rounds]; split <;> simp_all

theorem next_nil (h : l.cursor.rest = []) :
    l.next = if l.ended then (none, l.mark)
      else (some (.token (.endOfFile l.cursor.place.line)), { l.mark with ended := true }) := by
  rw [next]; split <;> simp_all

theorem next_cons {c : Char} {cs : List Char} (h : l.cursor.rest = c :: cs) :
    l.next = match (l.round c).1 with
      | some item => (some item, (l.round c).2)
      | none => (l.round c).2.next := by
  rw [next]
  split
  · simp_all
  · rename_i hr
    rw [h] at hr
    obtain ⟨rfl, rfl⟩ := hr
    split <;> simp_all

theorem items_of_ended (h : l.cursor.rest = []) (he : l.ended = true) : l.items = [] := by
  have hn : l.next = (none, l.mark) := by rw [next_nil h, if_pos he]
  exact items_of_next_none hn

theorem items_of_end (h : l.cursor.rest = []) (he : l.ended = false) :
    l.items = [.token (.endOfFile l.cursor.place.line)] := by
  have hn : l.next = (some (.token (.endOfFile l.cursor.place.line)), { l.mark with ended := true }) := by
    rw [next_nil h, if_neg (by simp [he])]
  rw [items_of_next_some hn, items_of_ended (l := { l.mark with ended := true }) h rfl]

theorem items_congr {l' : Lexer} (h : l.next = l'.next) : l.items = l'.items := by
  match hn : l'.next with
  | (none, _) => rw [items_of_next_none hn, items_of_next_none (h.trans hn)]
  | (some _, _) => rw [items_of_next_some hn, items_of_next_some (h.trans hn)]

theorem items_of_round {c : Char} {cs : List Char} (h : l.cursor.rest = c :: cs) :
    l.items = (l.round c).1.toList ++ (l.round c).2.items := by
  have hn := next_cons h
  cases hr : (l.round c).1 with
  | none =>
    rw [hr] at hn
    exact items_congr hn
  | some item =>
    rw [hr] at hn
    exact items_of_next_some hn

/-! ## The stream in pieces -/

section
variable {b a cs : List Char} {ps : List (Shape × List Char)}

theorem rounds_of_cut (hs : l.Splits b a cs) (hc : Cut cs ps) :
    l.rounds = ps.map fun q => some (String.ofList q.2) := by
  induction hc generalizing l b a with
  | nil => rw [rounds_nil hs.rest]; rfl
  | cons hn _ ih =>
    obtain ⟨c, t, hc, _, h₁⟩ := round_of_next hs hn
    rw [rounds_cons (hs.rest.trans hc), List.map_cons, ih h₁, h₁.lexeme?]

/-- **The stream of a lexer.** What is left gives the items of its pieces, and then the end of the text. -/
theorem items_of_cut (hs : l.Splits b a cs) (he : l.ended = false) (hc : Cut cs ps) :
    l.items = itemsFrom l.cursor.place.line ps := by
  induction hc generalizing l b a with
  | nil => exact items_of_end hs.rest he
  | @cons k p r ps hn _ ih =>
    obtain ⟨c, t, hc, hi, h₁⟩ := round_of_next hs hn
    rw [items_of_round (hs.rest.trans hc), hi, ih h₁ (by rw [ended_round, he]), hs.line_add h₁, itemsFrom_cons]

theorem items_ofString {s : String} (hc : Cut s.toList ps) : (ofString s).items = itemsFrom 1 ps :=
  items_of_cut (splits_ofString s) rfl hc

end
end Lexer

end LoxLex
