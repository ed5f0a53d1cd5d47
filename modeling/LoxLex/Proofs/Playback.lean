import LoxLex.Lexer.Query
import LoxLex.Proofs.Harvest

/-!
# A stream is a list played back

Whatever a lexer keeps in mind, all that can be learnt from it is a fixed list of items and how far one has
got in it. Questions to a lexer are answered as questions to a list with a position, in any order.
-/

namespace LoxLex

structure Playback where
  items : List Item
  position : Nat

namespace Playback

def left (b : Playback) : List Item := b.items.drop b.position

def skip (b : Playback) (n : Nat) : Playback := { b with position := b.position + n }

def find (p : Item → Bool) (b : Playback) : Option Item × Playback :=
  (b.left.find? p, b.skip (b.left.findIdx p + 1))

def answer (b : Playback) : Query → Reply × Option Playback
  | .next => (.item b.left.head?, some (b.skip 1))
  | .nth n => (.item b.left[n]?, some (b.skip (n + 1)))
  | .take n => (.items (b.left.take n), some (b.skip n))
  | .nextDiagnostic => let (i, b') := b.find Item.isDiagnostic; (.item i, some b')
  | .nextOfKind k => let (i, b') := b.find (Item.hasKind k); (.item i, some b')
  | .count => (.count b.left.length, some (b.skip b.left.length))
  | .rest => (.items b.left, some (b.skip b.left.length))
  | .harvest => (.harvest (tokensOf b.left) (diagnosticsOf b.left), none)

def answers : Option Playback → List Query → List Reply
  | _, [] => []
  | none, _ :: qs => .consumed :: answers none qs
  | some b, q :: qs => let (r, b') := b.answer q; r :: answers b' qs

theorem left_skip (b : Playback) (n : Nat) : (b.skip n).left = b.left.drop n := by
  simp [left, skip, List.drop_drop]

end Playback

/-! ## What a question takes from the stream -/

namespace Lexer

theorem items_of_none {l l' : Lexer} (h : l.next = (none, l')) : l'.items = [] := by
  fun_induction next l with
  | case1 l hr he =>
    obtain ⟨-, rfl⟩ := Prod.mk.inj h
    exact items_of_ended (l := l.mark) hr he
  | case2 | case3 => cases h
  | case4 l c r hr l₁ h₁ ih => exact ih h

theorem next_items (l : Lexer) : l.next.1 = l.items.head? ∧ l.next.2.items = l.items.tail := by
  match h : l.next with
  | (none, l') =>
    rw [items_of_next_none h]
    exact ⟨rfl, items_of_none h⟩
  | (some item, l') =>
    rw [items_of_next_some h]
    exact ⟨rfl, rfl⟩

theorem nth_items (n : Nat) (l : Lexer) :
    (l.nth n).1 = l.items[n]? ∧ (l.nth n).2.items = l.items.drop (n + 1) := by
  induction n generalizing l with
  | zero =>
    obtain ⟨h₁, h₂⟩ := l.next_items
    unfold nth
    rw [h₁, h₂]
    exact ⟨List.head?_eq_getElem?, List.drop_one.symm⟩
  | succ n ih =>
    unfold nth
    split
    · rename_i h
      rw [items_of_next_none h]
      exact ⟨rfl, items_of_none h⟩
    · rename_i l' h
      rw [items_of_next_some h]
      exact ih l'

theorem take_go_items (n : Nat) (taken : Array Item) (l : Lexer) :
    (take.go n taken l).1 = taken.toList ++ l.items.take n ∧ (take.go n taken l).2.items = l.items.drop n := by
  induction n generalizing taken l with
  | zero => simp [take.go]
  | succ n ih =>
    unfold take.go
    split
    · rename_i h
      rw [items_of_next_none h, items_of_none h]
      simp
    · rename_i item l' h
      obtain ⟨h₁, h₂⟩ := ih (taken.push item) l'
      rw [items_of_next_some h, h₁, h₂]
      simp

theorem take_items (n : Nat) (l : Lexer) :
    (l.take n).1 = l.items.take n ∧ (l.take n).2.items = l.items.drop n := by
  simpa [take] using take_go_items n #[] l

theorem find_items (p : Item → Bool) (l : Lexer) :
    (l.find p).1 = l.items.find? p ∧ (l.find p).2.items = l.items.drop (l.items.findIdx p + 1) := by
  fun_induction find p l with
  | case1 l l' h =>
    rw [items_of_next_none h]
    exact ⟨rfl, items_of_none h⟩
  | case2 l item l' h hp =>
    rw [items_of_next_some h]
    simp [hp, List.findIdx_cons]
  | case3 l item l' h hp ih =>
    rw [items_of_next_some h, ih.1, ih.2]
    simp [hp, List.findIdx_cons]

theorem exhaust_items (l : Lexer) : l.exhaust.items = [] := by
  have h : l.items.findIdx (fun _ => false) = l.items.length := by simp [List.findIdx_eq_length]
  rw [exhaust, (find_items _ l).2, h]
  simp

theorem count_items (l : Lexer) : l.count = l.items.length := by
  rw [count, fold_eq_foldl_items]
  simp

theorem length_items_le (l : Lexer) : l.items.length ≤ l.pending := by
  match h : l.next with
  | (none, l') =>
    rw [items_of_next_none h]
    exact Nat.zero_le _
  | (some item, l') =>
    have h₁ := length_items_le l'
    have h₂ := pending_next_lt h
    rw [items_of_next_some h, List.length_cons]
    omega
termination_by l.pending
decreasing_by exact pending_next_lt h

/-! ## Questions to both -/

/-- A lexer and a playback with the same items left give the same answer, and have the same items left after
it. -/
theorem answer_playback {l : Lexer} {b : Playback} (h : l.items = b.left) (q : Query) :
    (l.answer q).1 = (b.answer q).1 ∧
      (l.answer q).2.map Lexer.items = (b.answer q).2.map Playback.left := by
  have hf : ∀ p, (l.find p).1 = (b.find p).1 ∧ (l.find p).2.items = (b.find p).2.left := by
    intro p
    rw [(l.find_items p).1, (l.find_items p).2, h]
    exact ⟨rfl, (b.left_skip _).symm⟩
  have he : l.exhaust.items = (b.skip b.left.length).left := by
    rw [l.exhaust_items, b.left_skip, List.drop_length]
  cases q with
  | next =>
    obtain ⟨h₁, h₂⟩ := l.next_items
    simp [answer, Playback.answer, h₁, h₂, h, b.left_skip]
  | nth n =>
    obtain ⟨h₁, h₂⟩ := l.nth_items n
    simp [answer, Playback.answer, h₁, h₂, h, b.left_skip]
  | take n =>
    obtain ⟨h₁, h₂⟩ := l.take_items n
    simp [answer, Playback.answer, h₁, h₂, h, b.left_skip]
  | nextDiagnostic => simp [answer, Playback.answer, hf]
  | nextOfKind k => simp [answer, Playback.answer, hf]
  | count => simp [answer, Playback.answer, l.count_items, h, he]
  | rest => simp [answer, Playback.answer, h, he]
  | harvest => simp [answer, Playback.answer, harvest_eq, toList_foldl_receive, h]

theorem answers_eq_of_left (qs : List Query) : ∀ {l : Option Lexer} {b : Option Playback},
    l.map Lexer.items = b.map Playback.left → answers l qs = Playback.answers b qs := by
  induction qs with
  | nil =>
    intro l b _
    cases l <;> cases b <;> rfl
  | cons q qs ih =>
    intro l b h
    cases l with
    | none =>
      obtain rfl : b = none := by simpa using h.symm
      exact congrArg _ (ih rfl)
    | some l =>
      cases b with
      | none => cases h
      | some b =>
        obtain ⟨h₁, h₂⟩ := answer_playback (Option.some.inj h) q
        show (l.answer q).1 :: answers (l.answer q).2 qs = (b.answer q).1 :: Playback.answers (b.answer q).2 qs
        rw [h₁, ih h₂]

end Lexer

/-! ## The end -/

section
variable {is init : List Item} {line : Nat}

theorem Playback.answers_at_end {k : Nat} (hk : is.length ≤ k) (n : Nat) :
    answers (some ⟨is, k⟩) (List.replicate n .next) = List.replicate n (.item none) := by
  induction n generalizing k with
  | zero => rfl
  | succ n ih =>
    have hl : left ⟨is, k⟩ = [] := List.drop_eq_nil_of_le hk
    show Reply.item (left ⟨is, k⟩).head? :: answers (some ⟨is, k + 1⟩) (List.replicate n .next) = _
    rw [hl, ih (Nat.le_succ_of_le hk)]
    rfl

theorem tokensOf_drop_ended {k : Nat} (hi : is = init ++ [.token (.endOfFile line)]) (hk : k < is.length) :
    ∃ ts, tokensOf (is.drop k) = ts ++ [.endOfFile line] := by
  subst hi
  have hk : k ≤ init.length := by simp only [List.length_append, List.length_singleton] at hk; omega
  refine ⟨tokensOf (init.drop k), ?_⟩
  rw [List.drop_append_of_le_length hk, tokensOf_append]
  rfl

end

/-- **A stream is a list played back.** The list has an item for a character at most, and the end of the text,
last and only once. Whatever is asked of the lexer, in whatever order, is answered from the list. -/
theorem answers_eq_playback (source : String) :
    ∃ is : List Item, is.length ≤ source.length + 1 ∧
      (∃ init line, is = init ++ [.token (.endOfFile line)] ∧ ∀ i ∈ init, i.hasKind .endOfFile = false) ∧
      (∀ qs, Lexer.answers (some (.ofString source)) qs = Playback.answers (some ⟨is, 0⟩) qs) ∧
      (∀ k < is.length, ∃ ts line, tokensOf (is.drop k) = ts ++ [.endOfFile line]) ∧
      ∀ k, is.length ≤ k → tokensOf (is.drop k) = [] ∧ diagnosticsOf (is.drop k) = [] ∧
        ∀ n, Playback.answers (some ⟨is, k⟩) (List.replicate n .next) = List.replicate n (.item none) := by
  obtain ⟨ps, hc⟩ := exists_cut source.toList
  have he := Lexer.items_ofString hc
  refine ⟨(Lexer.ofString source).items, ?_, ⟨itemsOf 1 ps, _, he, fun i h => not_end_of_mem_itemsOf h⟩,
    fun qs => ?_, fun k hk => ?_, fun k hk => ?_⟩
  · exact (Lexer.ofString source).length_items_le
  · exact Lexer.answers_eq_of_left qs rfl
  · obtain ⟨ts, ht⟩ := tokensOf_drop_ended he hk
    exact ⟨ts, _, ht⟩
  · rw [List.drop_eq_nil_of_le hk]
    exact ⟨rfl, rfl, Playback.answers_at_end hk⟩

end LoxLex
