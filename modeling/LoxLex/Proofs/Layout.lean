import LoxLex.Proofs.Front
import LoxLex.Proofs.Relex

/-!
# Layout

Between two rounds of a lexer a blank may be written, and behind it any blanks and comments. A piece before
it ends where it ended, unless it is a comment, which then goes on to the next line feed; what comes behind
is read as before, on later lines. And a comment may be left out, since what stands before it could as well
stand before the end of the line.
-/

namespace LoxLex
namespace Lexer

/-- Rounds lead from `l` to `l'`, and give the items `is`. -/
inductive Reads : Lexer → List Item → Lexer → Prop
  | refl {l} : Reads l [] l
  | round {l l' c r is} : l.cursor.rest = c :: r → Reads (l.round c).2 is l' →
      Reads l ((l.round c).1.toList ++ is) l'

/-- Behind `b`, which gives the items `is`, a round of the lexer of a text begins, or the text ends. -/
structure Boundary (source : String) (b : List Char) (is : List Item) (l : Lexer) : Prop where
  reads : (ofString source).Reads is l
  source_eq : source.toList = b ++ l.cursor.rest

/-! ## Rounds take a front -/

structure ReadsFront (l l' : Lexer) (is : List Item) (b : List Char) (ps : List (Shape × List Char)) : Prop where
  rest : l.cursor.rest = b ++ l'.cursor.rest
  front : Front l'.cursor.rest b ps
  items : is = itemsOf l.cursor.place.line ps
  splits : ∃ b' p, l'.Splits b' p l'.cursor.rest
  line : l'.cursor.place.line = l.cursor.place.line + b.count '\n'
  ended : l'.ended = l.ended

theorem Reads.front {l l' : Lexer} {is : List Item} (h : l.Reads is l') {b p : List Char}
    (hs : l.Splits b p l.cursor.rest) : ∃ d ps, ReadsFront l l' is d ps := by
  induction h generalizing b p with
  | refl => exact ⟨[], [], rfl, .nil, rfl, ⟨b, p, hs⟩, rfl, rfl⟩
  | @round l l' c r is hr _ ih =>
    rw [hr] at hs
    obtain ⟨k, q, r', e, hn, hi, h₁⟩ := exists_round hs
    obtain ⟨d, ps, hd⟩ := ih (by rwa [h₁.rest])
    obtain rfl : r' = d ++ l'.cursor.rest := h₁.rest.symm.trans hd.rest
    have hl : (l.round c).2.cursor.place.line = l.cursor.place.line + q.count '\n' :=
      Splits.line_add (e ▸ hs) h₁
    refine ⟨q ++ d, (k, q) :: ps, ?_, .cons hn hd.front, ?_, hd.splits, ?_, ?_⟩
    · rw [hr, e, List.append_assoc]
    · rw [itemsOf, hi, hd.items, hl]
    · rw [hd.line, hl, List.count_append, Nat.add_assoc]
    · rw [hd.ended, ended_round]

theorem Boundary.front {source : String} {b : List Char} {is : List Item} {l : Lexer}
    (h : Boundary source b is l) : ∃ ps, Front l.cursor.rest b ps ∧ is = itemsOf 1 ps ∧
      ∀ qs, Cut l.cursor.rest qs → l.items = itemsFrom (1 + b.count '\n') qs := by
  obtain ⟨d, ps, hd⟩ := h.reads.front (splits_ofString source)
  obtain rfl : b = d := List.append_cancel_right (h.source_eq.symm.trans hd.rest)
  obtain ⟨b', p, hs⟩ := hd.splits
  refine ⟨ps, hd.front, hd.items, fun qs hq => ?_⟩
  rw [items_of_cut hs hd.ended hq, hd.line]
  rfl

theorem Boundary.items_eq {source : String} {b : List Char} {is : List Item} {l : Lexer}
    (h : Boundary source b is l) : (ofString source).items = is ++ l.items := by
  obtain ⟨ps, hf, rfl, hi⟩ := h.front
  obtain ⟨qs, hq⟩ := exists_cut l.cursor.rest
  have hc : Cut source.toList (ps ++ qs) := by
    rw [h.source_eq]
    exact hf.cut hq
  rw [items_ofString hc, hf.itemsFrom_append, hi qs hq]

/-- Rounds come to the end of every text. -/
theorem exists_reads_end (l : Lexer) : ∃ is l', l.Reads is l' ∧ l'.cursor.rest = [] := by
  match h : l.cursor.rest with
  | [] => exact ⟨[], l, .refl, h⟩
  | c :: r =>
    have := left_round_lt h
    obtain ⟨is, l', hl, he⟩ := exists_reads_end (l.round c).2
    exact ⟨_, l', .round h hl, he⟩
termination_by l.left

end Lexer

/-! ## What may be written -/

section
variable {p r s t b : List Char} {ps qs : List (Shape × List Char)}

theorem Separator.exists_line_feed (h : Separator s) :
    '\n' ∉ s ∨ ∃ u s', s = u ++ '\n' :: s' ∧ '\n' ∉ u ∧ Separator s' := by
  induction h with
  | nil => exact .inl (by simp)
  | @blank c s _ hs ih =>
    by_cases hc : c = '\n'
    · subst hc
      exact .inr ⟨[], s, rfl, by simp, hs⟩
    · rcases ih with h | ⟨u, s', rfl, hu, hs'⟩
      · exact .inl (by simp [h, Ne.symm hc])
      · exact .inr ⟨c :: u, s', rfl, by simp [hu, Ne.symm hc], hs'⟩
  | @comment t s ht hs _ => exact .inr ⟨'/' :: '/' :: t, s, rfl, by simp [ht], hs⟩

/-- A comment takes in what is written behind it, up to a line feed. -/
theorem cut_comment_separator (ht : '\n' ∉ t) (hr : Stops (· ≠ '\n') r) (hs : Separator s) (hq : Cut r qs) :
    ∃ us, Cut ('/' :: '/' :: (t ++ (s ++ r))) us ∧
      ∀ line, itemsFrom line us = itemsFrom (line + s.count '\n') qs := by
  rcases hs.exists_line_feed with h | ⟨u, s', rfl, hu, hs'⟩
  · have hts : '\n' ∉ t ++ s := by simp [ht, h]
    have hc : Cut ('/' :: '/' :: (t ++ s) ++ r) _ := .cons (.comment hts hr) hq
    refine ⟨_, by simpa using hc, fun line => ?_⟩
    have hn : ('/' :: '/' :: (t ++ s)).count '\n' = s.count '\n' := by
      simp [List.count_eq_zero.mpr ht]
    rw [itemsFrom_cons, hn]
    rfl
  · have htu : '\n' ∉ t ++ u := by simp [ht, hu]
    obtain ⟨vs, hv, hi⟩ := cut_separator hs' hq
    refine ⟨_, by simpa using cut_comment htu hv, fun line => ?_⟩
    have hn : (u ++ '\n' :: s').count '\n' = 1 + s'.count '\n' := by
      rw [List.count_append, List.count_eq_zero.mpr hu, count_cons_eq]
      simp
    rw [itemsFrom_comment htu, itemsFrom_blank, hi, hn, ← Nat.add_assoc]
    rfl

theorem Front.of_append (h : Front r b (ps ++ qs)) : ∃ c d, b = c ++ d ∧ Front (d ++ r) c ps ∧ Front r d qs := by
  induction ps generalizing b with
  | nil => exact ⟨[], b, rfl, .nil, h⟩
  | cons q ps ih =>
    cases h with
    | cons hn hf =>
      obtain ⟨c, d, rfl, hc, hd⟩ := ih hf
      exact ⟨_, d, (List.append_assoc ..).symm, .cons (by rwa [← List.append_assoc]) hc, hd⟩

theorem Front.of_comment (h : Front r b (ps ++ [(.comment, p)])) : ∃ c t, b = c ++ '/' :: '/' :: t ∧
    '\n' ∉ t ∧ Stops (· ≠ '\n') r ∧ Front ('/' :: '/' :: (t ++ r)) c ps := by
  obtain ⟨c, d, rfl, hc, hd⟩ := h.of_append
  cases hd with
  | cons hn hf =>
    obtain rfl := hf.eq_nil
    cases hn with
    | comment ht hr => exact ⟨c, _, by simp, ht, hr, by simpa using hc⟩

theorem Front.parted {r' : List Char} (h : Front r b ps) (ho : ∀ q ∈ ps, q.1 ≠ .openString)
    (hc : ∀ q, ps.getLast? = some q → q.1 ≠ .comment) (hr : Parted r') : Front r' b ps :=
  h.change ho (fun _ => hr.stops rfl) fun q hq hn => hn.parted (hc q hq) (ho q (List.mem_of_getLast? hq)) hr

theorem exists_cut_behind_comment (hf : Front ('/' :: '/' :: (t ++ r)) b ps)
    (ho : ∀ q ∈ ps, q.1 ≠ .openString) (ht : '\n' ∉ t) (hr : Stops (· ≠ '\n') r) (hq : Cut r qs)
    (hs : Separator s) : ∃ us, Cut (b ++ '/' :: '/' :: (t ++ (s ++ r))) us ∧
      ∀ line, itemsFrom line us = itemsOf line ps ++ itemsFrom (line + b.count '\n' + s.count '\n') qs := by
  obtain ⟨us, hu, hi⟩ := cut_comment_separator ht hr hs hq
  have hf' : Front ('/' :: '/' :: (t ++ (s ++ r))) b ps := by
    refine hf.change ho (fun _ => stops_cons (by decide)) fun q hq hn => ?_
    exact hn.of_head? (ho q (List.mem_of_getLast? hq)) rfl fun _ => nofun
  exact ⟨_, hf'.cut hu, fun line => by rw [hf'.itemsFrom_append, hi]⟩

theorem exists_cut_insert (hf : Front r b ps) (ho : ∀ q ∈ ps, q.1 ≠ .openString) (hq : Cut r qs)
    (hs : Separator s) (hp : Parted s) : ∃ us, Cut (b ++ (s ++ r)) us ∧
      ∀ line, itemsFrom line us = itemsOf line ps ++ itemsFrom (line + b.count '\n' + s.count '\n') qs := by
  by_cases hs₀ : s = []
  · subst hs₀
    exact ⟨_, hf.cut hq, fun line => hf.itemsFrom_append⟩
  by_cases hc : ∃ ps₀ p, ps = ps₀ ++ [(.comment, p)]
  · -- the comment grows, and its front stays
    obtain ⟨ps₀, p, rfl⟩ := hc
    obtain ⟨c, t, rfl, ht, hr, hf₀⟩ := hf.of_comment
    have ho₀ : ∀ q ∈ ps₀, q.1 ≠ .openString := fun q hq => ho q (List.mem_append_left _ hq)
    obtain ⟨us, hu, hi⟩ := exists_cut_behind_comment hf₀ ho₀ ht hr hq hs
    refine ⟨us, by simpa using hu, fun line => ?_⟩
    rw [hi, hf₀.itemsOf_append, List.count_append, count_comment ht]
    simp [itemsOf, Shape.item?]
  · have hsr : Parted (s ++ r) := by
      obtain ⟨c, s, rfl⟩ := List.exists_cons_of_ne_nil hs₀
      exact hp
    have hl : ∀ q, ps.getLast? = some q → q.1 ≠ .comment := by
      intro q hq e
      obtain ⟨ps₀, rfl⟩ := List.getLast?_eq_some_iff.mp hq
      exact hc ⟨ps₀, q.2, by rw [← e]⟩
    have hf' : Front (s ++ r) b ps := hf.parted ho hl hsr
    obtain ⟨us, hu, hi⟩ := cut_separator hs hq
    exact ⟨_, hf'.cut hu, fun line => by rw [hf'.itemsFrom_append, hi]⟩

/-! ## What may be left out -/

theorem Front.closed {c : Char} (h : Front (c :: r) b ps) : ∀ q ∈ ps, q.1 ≠ .openString := by
  induction h with
  | nil => simp
  | @cons k p b ps hn _ ih =>
    refine List.forall_mem_cons.mpr ⟨?_, ih⟩
    rintro rfl
    generalize hr : b ++ c :: r = r' at hn
    cases hn with
    | openString => simp at hr

theorem Front.before_comment (hf : Front ('/' :: '/' :: (t ++ r)) b ps) (hr : Stops (· ≠ '\n') r) :
    Front r b ps := by
  have hp : Parted r := by
    intro c hc
    have : c = '\n' := by simpa using hr c hc
    simp [this, blanks]
  refine hf.parted hf.closed (fun q hq e => ?_) hp
  -- a comment would have gone on over this one
  obtain ⟨ps₀, rfl⟩ := List.getLast?_eq_some_iff.mp hq
  obtain ⟨k, p⟩ := q
  obtain rfl : k = .comment := e
  obtain ⟨c, u, _, _, hs, _⟩ := hf.of_comment
  exact absurd (hs '/' rfl) (by decide)

end

section
variable {source : String} {b r s t : List Char} {is : List Item} {l : Lexer}

theorem Lexer.Boundary.items_insert (h : Boundary source b is l)
    (ho : ∀ n, .diagnostic (.unterminatedString n) ∉ is) (hs : Separator s) (hp : Parted s) :
    (ofString (.ofList (b ++ s ++ l.cursor.rest))).items = is ++ l.items.map (Item.raise (s.count '\n')) := by
  obtain ⟨ps, hf, rfl, hi⟩ := h.front
  obtain ⟨qs, hq⟩ := exists_cut l.cursor.rest
  obtain ⟨us, hu, hui⟩ := exists_cut_insert hf (closed_of_itemsOf ho) hq hs hp
  rw [items_ofString (by simpa using hu), hui, itemsFrom_add, hi qs hq]

theorem Lexer.Boundary.items_delete (h : Boundary source b is l)
    (hl : l.cursor.rest = '/' :: '/' :: (t ++ r)) (ht : '\n' ∉ t) (hr : Stops (· ≠ '\n') r) :
    (ofString (.ofList (b ++ r))).items = (ofString source).items := by
  obtain ⟨ps, hf, rfl, hi⟩ := h.front
  obtain ⟨qs, hq⟩ := exists_cut r
  have hc : Cut l.cursor.rest ((.comment, '/' :: '/' :: t) :: qs) := by
    rw [hl]
    exact .cons (.comment ht hr) hq
  have hli : l.items = itemsFrom (1 + b.count '\n') qs := by rw [hi _ hc, itemsFrom_comment ht]
  rw [hl] at hf
  have hf' : Front r b ps := hf.before_comment hr
  rw [h.items_eq, hli, items_ofString (by simpa using hf'.cut hq), hf'.itemsFrom_append]

end

/-- **Layout.** What is written at a boundary moves the later items to later lines and changes nothing else,
and without one of its comments a text has the same items. -/
theorem items_layout (source : String) :
    (∀ b is l s, Lexer.Boundary source b is l → (∀ n, .diagnostic (.unterminatedString n) ∉ is) →
      Separator s → Parted s →
        (Lexer.ofString source).items = is ++ l.items ∧
        (Lexer.ofString (.ofList (b ++ s ++ l.cursor.rest))).items =
          is ++ l.items.map (Item.raise (s.count '\n'))) ∧
    (∃ is l, Lexer.Boundary source source.toList is l) ∧
    ∀ b is l t r, Lexer.Boundary source b is l → l.cursor.rest = '/' :: '/' :: (t ++ r) → '\n' ∉ t →
      Stops (· ≠ '\n') r →
        (Lexer.ofString (.ofList (b ++ r))).items = (Lexer.ofString source).items := by
  refine ⟨fun b is l s h ho hs hp => ⟨h.items_eq, h.items_insert ho hs hp⟩, ?_, fun b is l t r h hl ht hr => ?_⟩
  · obtain ⟨is, l, hl, he⟩ := (Lexer.ofString source).exists_reads_end
    exact ⟨is, l, hl, by rw [he, List.append_nil]⟩
  · exact h.items_delete hl ht hr

/-- The comment behind `1` takes in the first half of what is written. -/
theorem items_layout_behind_comment :
    (Lexer.ofString "1// a // b\n\t\n.2").items =
      [.token ⟨.number, "1", some (.number ⟨0x3ff0000000000000⟩), 1⟩, .token ⟨.mark .dot, ".", none, 3⟩,
        .token ⟨.number, "2", some (.number ⟨0x4000000000000000⟩), 3⟩, .token (.endOfFile 3)] := by
  let l₀ := Lexer.ofString "1// a\n.2"
  let l₁ := (l₀.round '1').2
  let l₂ := (l₁.round '/').2
  have h₁ : l₀.cursor.rest = '1' :: ['/', '/', ' ', 'a', '\n', '.', '2'] := by decide +kernel
  have h₂ : l₁.cursor.rest = '/' :: ['/', ' ', 'a', '\n', '.', '2'] := by decide +kernel
  have hi : (l₀.round '1').1.toList ++ ((l₁.round '/').1.toList ++ []) =
      [.token ⟨.number, "1", some (.number ⟨0x3ff0000000000000⟩), 1⟩] := by decide +kernel
  have hr : l₀.Reads _ l₂ := .round h₁ (.round h₂ .refl)
  rw [hi] at hr
  have hb : Lexer.Boundary "1// a\n.2" ['1', '/', '/', ' ', 'a'] _ l₂ := ⟨hr, by decide +kernel⟩
  have hs : Separator [' ', '/', '/', ' ', 'b', '\n', '\t'] :=
    .blank (by decide) (.comment (t := [' ', 'b']) (by decide) (.blank (by decide) .nil))
  have h := ((items_layout _).1 _ _ _ _ hb (by simp) hs (by simp [Parted, blanks])).2
  refine Eq.trans ?_ (h.trans ?_)
  · decide +kernel
  · decide +kernel

end LoxLex
