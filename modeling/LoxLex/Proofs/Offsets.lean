import LoxLex.Proofs.Reader
import Mathlib.Logic.Function.Iterate

/-!
# Offsets

The offsets that a reader keeps by hand never part from its iterator: the characters taken and those to come
are the text, and offsets and lines are those of the characters taken. So the offsets are always in order,
within the text and between characters, and all that they cut out of the text is a run of characters taken.
-/

namespace LoxLex

/-! ## Slices -/

/-- Two offsets in order, within the text and between characters, with `t` between them. -/
structure IsSlice (source : String) (i j : Nat) (t : List Char) : Prop where
  le : i ≤ j
  le_end : j ≤ source.utf8ByteSize
  left : String.Pos.Raw.IsValid source ⟨i⟩
  right : String.Pos.Raw.IsValid source ⟨j⟩
  slice? : slice? source i j = some (String.ofList t)

theorem isSlice_of_slice? {source : String} {i j : Nat} {t : List Char}
    (h : slice? source i j = some (String.ofList t)) : IsSlice source i j t := by
  by_cases hv : i ≤ j ∧ String.Pos.Raw.IsValid source ⟨i⟩ ∧ String.Pos.Raw.IsValid source ⟨j⟩
  · obtain ⟨hij, hi, hj⟩ := hv
    exact ⟨hij, hj.le_rawEndPos, hi, hj, h⟩
  · simp [slice?, hv] at h

namespace Lexer
variable {l l' : Lexer} {b p q t u r : List Char} {c : Char}

/-! ## A round in single moves -/

theorem Splits.advances (h : l.Splits b p (t ++ r)) : (Lexer.advance^[t.length] l).Splits b (p ++ t) r := by
  induction t generalizing l p with
  | nil => simpa using h
  | cons c t ih =>
    have h₁ : l.advance.Splits b (p ++ [c]) (t ++ r) := h.advance
    simpa using ih h₁

theorem ended_advances (n : Nat) (l : Lexer) : (advance^[n] l).ended = l.ended := by
  induction n generalizing l with
  | zero => rfl
  | succ n ih => exact ih l.advance

/-- A round of `l` marks its beginning, takes the characters `q` one after another, and cuts them out if they
are a token. What stands between the quotes of a string is cut out as well. -/
structure RoundTakes (l : Lexer) (c : Char) (q : List Char) : Prop where
  ne_nil : q ≠ []
  moves : (l.round c).2 = advance^[q.length] l.mark
  rest : l.cursor.rest = q ++ (l.round c).2.cursor.rest
  shorter : (l.round c).2.cursor.rest.length < l.cursor.rest.length
  lexeme? : (l.round c).2.lexeme? = some (String.ofList q)
  slice : IsSlice l.source (l.round c).2.start.offset (l.round c).2.cursor.place.offset q
  token : ∀ t, (l.round c).1 = some (.token t) → t.lexeme = String.ofList q
  quoted : ∀ u r, l.cursor.rest = '"' :: (u ++ '"' :: r) → '"' ∉ u →
    q = '"' :: (u ++ ['"']) ∧ (l.round c).2.inner? = some (String.ofList u) ∧
    IsSlice l.source ((l.round c).2.start.offset + 1) ((l.round c).2.cursor.place.offset - 1) u ∧
    (l.round c).1 = some (.token ⟨.string, .ofList q, some (.string (.ofList u)), l.cursor.place.line⟩)

theorem round_quoted (h : l.Splits b p ('"' :: (u ++ '"' :: r))) (hu : '"' ∉ u) :
    (l.round '"').2.Splits (b ++ p) ('"' :: (u ++ ['"'])) r ∧
      (l.round '"').1 = some (.token ⟨.string, .ofList ('"' :: (u ++ ['"'])), some (.string (.ofList u)),
        l.cursor.place.line⟩) := by
  have h' : l.Splits b p ('"' :: (u ++ ['"']) ++ r) := by simpa using h
  obtain ⟨c, t, hc, hi, h₁⟩ := round_of_next h' (.string hu)
  obtain rfl : '"' = c := (List.cons.inj hc).1
  exact ⟨h₁, by simpa [Shape.item?] using hi⟩

theorem exists_round_takes (h : l.Splits b p (c :: r)) : ∃ q, l.RoundTakes c q := by
  obtain ⟨k, q, r', e, hn, hi, h₁⟩ := exists_round h
  have hrest : l.cursor.rest = q ++ (l.round c).2.cursor.rest := by rw [h.rest, h₁.rest, e]
  have hs : (l.round c).2.source = l.source := by
    apply String.toList_injective
    rw [h₁.source, h.source, e, List.append_assoc _ q]
  refine ⟨q, hn.ne_nil, ?_, hrest, ?_, h₁.lexeme?, ?_, ?_, ?_⟩
  · -- both have taken `q`, and the parts of the text tell all that a lexer keeps
    rw [e] at h
    apply h₁.lexer_eq h.mark.advances
    rw [ended_round, ended_advances, ended_mark]
  · have hq := List.length_pos_iff.mpr hn.ne_nil
    rw [hrest, List.length_append]
    omega
  · rw [← hs]
    exact isSlice_of_slice? h₁.lexeme?
  · intro t ht
    have hq : t.lexeme.toList = q := (Shape.item?_token (hi.symm.trans ht)).1
    rw [← hq, String.ofList_toList]
  · intro u r₁ hr hu
    obtain ⟨rfl, rfl⟩ := List.cons.inj (h.rest.symm.trans hr)
    obtain ⟨h₂, hi₂⟩ := round_quoted h hu
    -- the ends of the piece are quotes, of one byte each
    obtain rfl : q = '"' :: (u ++ ['"']) := h₁.piece_eq h₂
    have hc : (l.round '"').2.inner? = some (String.ofList u) := h₂.inner? rfl rfl
    exact ⟨rfl, hc, hs ▸ isSlice_of_slice? hc, hi₂⟩

/-! ## What `next` keeps, every question keeps -/

section
variable {P : Lexer → Prop} (hP : ∀ l, P l → P l.next.2)
include hP

theorem keeps_nth (n : Nat) (h : P l) : P (l.nth n).2 := by
  induction n generalizing l with
  | zero => exact hP l h
  | succ n ih =>
    have h₁ := hP l h
    unfold nth
    split
    · rename_i hn
      simpa [hn] using h₁
    · rename_i hn
      exact ih (by simpa [hn] using h₁)

theorem keeps_take_go (n : Nat) (taken : Array Item) (h : P l) : P (take.go n taken l).2 := by
  induction n generalizing taken l with
  | zero => exact h
  | succ n ih =>
    have h₁ := hP l h
    unfold take.go
    split
    · rename_i hn
      simpa [hn] using h₁
    · rename_i hn
      exact ih _ (by simpa [hn] using h₁)

theorem keeps_find (f : Item → Bool) (h : P l) : P (l.find f).2 := by
  have h₁ := hP l h
  fun_induction find f l with
  | case1 l l' hn => simpa [hn] using h₁
  | case2 l item l' hn hf => simpa [hn] using h₁
  | case3 l item l' hn hf ih =>
    have h₂ : P l' := by simpa [hn] using h₁
    exact ih h₂ (hP l' h₂)

theorem keeps_answer (q : Query) (h : P l) (ha : (l.answer q).2 = some l') : P l' := by
  cases q with
  | next => exact Option.some.inj ha ▸ hP l h
  | nth n => exact Option.some.inj ha ▸ keeps_nth hP n h
  | take n => exact Option.some.inj ha ▸ keeps_take_go hP n #[] h
  | nextDiagnostic | nextOfKind | count | rest => exact Option.some.inj ha ▸ keeps_find hP _ h
  | harvest => cases ha

end
end Lexer

/-! ## Readers -/

namespace Reader
variable {σ : Type} [Peekable σ] {source : String} {s : Reader σ}

/-- Before the current piece the characters `b` were taken, and `p` in it. -/
structure InStep (source : String) (s : Reader σ) (b p : List Char) : Prop where
  source_eq : s.source = source
  text : source.toList = b ++ p ++ s.pending
  start_offset : s.start.offset = (String.ofList b).utf8ByteSize
  offset : s.place.offset = (String.ofList (b ++ p)).utf8ByteSize
  start_line : s.start.line = 1 + b.count '\n'
  line : s.place.line = 1 + (b ++ p).count '\n'
  lexeme? : s.lexer.lexeme? = some (String.ofList p)
  slice : IsSlice source s.start.offset s.place.offset p

theorem Reached.inStep (h : Reached source s) : ∃ b p, s.InStep source b p := by
  obtain ⟨-, b, p, hs⟩ := h.within
  have hl := hs.lexeme?
  have he := h.source_eq
  subst he
  exact ⟨b, p, rfl, hs.source, hs.start_offset, hs.offset, hs.start_line, hs.line, hl, isSlice_of_slice? hl⟩

/-- Some reader of the text stands for this lexer. -/
def Shows (σ : Type) [Peekable σ] (source : String) (l : Lexer) : Prop :=
  ∃ s : Reader σ, Reached source s ∧ s.lexer = l

theorem Reached.shows_advances (h : Reached source s) (n : Nat) :
    Shows σ source (Lexer.advance^[n] s.lexer) := by
  induction n generalizing s with
  | zero => exact ⟨s, h, rfl⟩
  | succ n ih =>
    rw [Function.iterate_succ_apply, ← lexer_advance]
    exact ih (h.move (.advance s))

theorem Reached.round_takes {c : Char} {r : List Char} (h : Reached source s) (hr : s.pending = c :: r) :
    ∃ q, s.lexer.RoundTakes c q := by
  obtain ⟨-, b, p, hs⟩ := h.within
  rw [show s.lexer.cursor.rest = c :: r from hr] at hs
  exact Lexer.exists_round_takes hs

theorem Reached.shows_round {c : Char} {r : List Char} (h : Reached source s) (hr : s.pending = c :: r) :
    Shows σ source (s.lexer.round c).2 := by
  obtain ⟨q, hq⟩ := h.round_takes hr
  rw [hq.moves, ← lexer_mark]
  exact (h.move (.mark s)).shows_advances q.length

theorem Shows.next {l : Lexer} (h : Shows σ source l) : Shows σ source l.next.2 := by
  -- over the rounds of `next`; where nothing is left to take, it marks and ends
  fun_induction Lexer.next l with
  | case1 l hr he =>
    obtain ⟨s, h, rfl⟩ := h
    exact ⟨s.mark, h.move (.mark s), rfl⟩
  | case2 l hr he =>
    obtain ⟨s, h, rfl⟩ := h
    exact ⟨s.mark.finish, (h.move (.mark s)).move (.finish s.mark), rfl⟩
  | case3 l c r hr item l' h₁ =>
    obtain ⟨s, h, rfl⟩ := h
    simpa [h₁] using h.shows_round hr
  | case4 l c r hr l' h₁ ih =>
    obtain ⟨s, h, rfl⟩ := h
    exact ih (by simpa [h₁] using h.shows_round hr)

end Reader

open Reader in
/-- **Offsets.** In every state of a reader the characters taken and those to come are the text, its offsets and
lines are those of the characters taken, and its two offsets cut out the current piece. Looking ahead tells what
is to come and changes nothing. A round takes at least one character, comes only through such states, and cuts
out nothing but characters that it took. Whatever is asked, what answers is again such a reader. -/
theorem reached_in_step {σ : Type} [Peekable σ] {source : String} {s : Reader σ} (h : Reached source s) :
    (∃ b p, s.InStep source b p) ∧
    (∀ n, (s.peek n).lexer = s.lexer) ∧
    (s.lexer.cursor.peek? = (Peekable.peek 0 s.iterator).1 ∧
      s.lexer.cursor.peekSecond? = (Peekable.peek 1 s.iterator).1) ∧
    (∀ c r, s.pending = c :: r → ∃ q, s.lexer.RoundTakes c q ∧
      ∀ n ≤ q.length, Shows σ source (Lexer.advance^[n] s.lexer.mark)) ∧
    ∀ q l, (s.lexer.answer q).2 = some l → Shows σ source l := by
  refine ⟨h.inStep, s.lexer_peek, ⟨s.peek?_lexer, s.peekSecond?_lexer⟩, ?_, ?_⟩
  · intro c r hr
    obtain ⟨q, hq⟩ := h.round_takes hr
    refine ⟨q, hq, ?_⟩
    intro n _
    rw [← lexer_mark]
    exact (h.move (.mark s)).shows_advances n
  · intro q l ha
    exact Lexer.keeps_answer (P := Shows σ source) (fun _ hl => hl.next) q ⟨s, h, rfl⟩ ha

open Reader in
/-- A string of characters of one to four bytes, and a reader in the midst of it that has looked ahead. -/
theorem reached_in_step_inside_string :
    Reached "\"é\n€😀\"" ((ofString "\"é\n€😀\"" : Reader Queue).mark.advance.advance.peek 1) ∧
    (∃ b p, InStep "\"é\n€😀\"" ((ofString "\"é\n€😀\"" : Reader Queue).mark.advance.advance.peek 1) b p) ∧
    IsSlice "\"é\n€😀\"" 1 11 ['é', '\n', '€', '😀'] := by
  have h : Reached "\"é\n€😀\"" (ofString "\"é\n€😀\"" : Reader Queue) := .refl
  have h₁ := (((h.move (.mark _)).move (.advance _)).move (.advance _)).move (.peek 1 _)
  obtain ⟨hp, -⟩ := reached_in_step h₁
  obtain ⟨-, -, -, hr, -⟩ := reached_in_step h
  obtain ⟨q, hq, -⟩ := hr '"' ['é', '\n', '€', '😀', '"'] (by decide +kernel)
  obtain ⟨-, -, hs, -⟩ := hq.quoted ['é', '\n', '€', '😀'] [] (by decide +kernel) (by decide)
  exact ⟨h₁, hp, hs⟩

end LoxLex
