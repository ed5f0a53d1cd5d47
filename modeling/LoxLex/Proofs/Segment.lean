import LoxLex.Proofs.Front
import LoxLex.Proofs.Harvest

/-!
# Texts read one by one

A line feed that is not in a string is a piece of its own, whatever follows it. So a text may be cut behind
line feeds and its parts read each by itself, as lines typed at a prompt are, if no part but the last leaves
a string open. The items are the same, on lines counted on from part to part.
-/

namespace LoxLex

/-- The items of `s` without its end, with `n` line feeds before it. -/
def itemsAfter (n : Nat) (s : String) : List Item :=
  ((Lexer.ofString s).items.filter fun i => !i.hasKind .endOfFile).map (Item.raise n)

/-- The items of texts that are read one by one, `n` line feeds after the first line, and one end for all. -/
def itemsApart (n : Nat) (ss : List String) : List Item :=
  (ss.mapIdx fun i s => itemsAfter (n + (String.join (ss.take i)).toList.count '\n') s).flatten ++
    [.token (.endOfFile (1 + n + (String.join ss).toList.count '\n'))]

section
variable {k : Shape} {p r b cs : List Char} {ps qs : List (Shape × List Char)}

/-! ## A line feed ends a front -/

theorem Next.of_line_feed (h : Next k p r) (hk : k ≠ .openString) (hp : p.getLast? = some '\n')
    (r' : List Char) : Next k p r' := by
  have ha := h.allows '\n' (List.mem_of_getLast? hp)
  cases h with
  | blank hc => exact .blank hc
  | string ht => exact .string ht
  | openString => exact absurd rfl hk
  | _ => cases ha

theorem Cut.front_of_line_feed (h : Cut cs ps) (ho : ∀ q ∈ ps, q.1 ≠ .openString)
    (hl : cs.getLast? = some '\n') (r : List Char) : Front r cs ps := by
  refine h.front.change ho (fun hd => ?_) fun q hq hn => ?_
  · rw [hl] at hd
    cases hd
  · exact hn.of_line_feed (ho q (List.mem_of_getLast? hq)) ((h.front.getLast?_eq hq).trans hl) r

/-! ## Segments -/

theorem itemsAfter_of_cut {s : String} (hc : Cut s.toList ps) (n : Nat) :
    itemsAfter n s = itemsOf (1 + n) ps := by
  have hf : (itemsOf 1 ps).filter (fun i => !i.hasKind .endOfFile) = itemsOf 1 ps :=
    List.filter_eq_self.mpr fun i hi => by rw [not_end_of_mem_itemsOf hi]; rfl
  rw [itemsAfter, Lexer.items_ofString hc, hc.itemsFrom_eq, List.filter_append, hf, itemsOf_add]
  simp [Item.hasKind, Token.endOfFile]

theorem itemsApart_cons (n : Nat) (s : String) (ss : List String) :
    itemsApart n (s :: ss) = itemsAfter n s ++ itemsApart (n + s.toList.count '\n') ss := by
  simp [itemsApart, List.mapIdx_cons, Nat.add_assoc]

theorem closed_of_lex {s : String} (hc : Cut s.toList ps)
    (h : ∀ d ∈ (lex s (#[] : Array Diagnostic)).2, d.fault ≠ .unterminatedString) :
    ∀ q ∈ ps, q.1 ≠ .openString := by
  have hn : ∀ n, .diagnostic (.unterminatedString n) ∉ itemsOf 1 ps := by
    intro n hn
    refine h (.unterminatedString n) ?_ rfl
    rw [lex_eq, ← Array.mem_toList_iff, toList_foldl_receive, Lexer.items_ofString hc, hc.itemsFrom_eq]
    exact List.mem_filterMap.mpr ⟨_, List.mem_append_left _ hn, rfl⟩
  exact closed_of_itemsOf hn

theorem exists_cut_join {ss : List String} (hl : ∀ s ∈ ss.dropLast, s.toList.getLast? = some '\n')
    (ho : ∀ s ∈ ss.dropLast, ∀ d ∈ (lex s (#[] : Array Diagnostic)).2, d.fault ≠ .unterminatedString) :
    ∃ ps, Cut (String.join ss).toList ps ∧ ∀ n, itemsFrom (1 + n) ps = itemsApart n ss := by
  induction ss with
  | nil => exact ⟨[], .nil, fun n => by simp [itemsFrom_nil, itemsApart]⟩
  | cons s ss ih =>
    obtain ⟨ps, hc⟩ := exists_cut s.toList
    have hf : Front (String.join ss).toList s.toList ps := by
      cases ss with
      | nil => simpa using hc.front
      | cons s' ss =>
        have hs : s ∈ (s :: s' :: ss).dropLast := List.mem_cons_self ..
        exact hc.front_of_line_feed (closed_of_lex hc (ho s hs)) (hl s hs) _
    have hd : ∀ t ∈ ss.dropLast, t ∈ (s :: ss).dropLast := by
      intro t ht
      cases ss with
      | nil => cases ht
      | cons s' ss => exact List.mem_cons_of_mem _ ht
    obtain ⟨qs, hq, hi⟩ := ih (fun t ht => hl t (hd t ht)) (fun t ht => ho t (hd t ht))
    refine ⟨ps ++ qs, by simpa using hf.cut hq, fun n => ?_⟩
    rw [hf.itemsFrom_append, Nat.add_assoc, hi, itemsApart_cons, itemsAfter_of_cut hc]

end

/-- **Texts read one by one.** Each but the last ends in a line feed and leaves no string open. -/
theorem items_join {ss : List String} (hl : ∀ s ∈ ss.dropLast, s.toList.getLast? = some '\n')
    (ho : ∀ s ∈ ss.dropLast, ∀ d ∈ (lex s (#[] : Array Diagnostic)).2, d.fault ≠ .unterminatedString) :
    (Lexer.ofString (String.join ss)).items = itemsApart 0 ss := by
  obtain ⟨ps, hc, hi⟩ := exists_cut_join hl ho
  rw [Lexer.items_ofString hc]
  exact hi 0

theorem items_join_comment_string_open :
    (Lexer.ofString "// \"\na@ \"b\nc\"\n1.\"d\r\n").items =
      [.token ⟨.identifier, "a", none, 2⟩, .diagnostic (.unexpectedCharacter 2 '@'),
        .token ⟨.string, "\"b\nc\"", some (.string "b\nc"), 2⟩,
        .token ⟨.number, "1", some (.number ⟨0x3ff0000000000000⟩), 4⟩, .token ⟨.mark .dot, ".", none, 4⟩,
        .diagnostic (.unterminatedString 5), .token (.endOfFile 5)] := by
  have hj : "// \"\na@ \"b\nc\"\n1.\"d\r\n" = String.join ["// \"\n", "a@ \"b\nc\"\n", "1.\"d\r\n"] := by
    decide +kernel
  rw [hj, items_join (by decide +kernel) (by decide +kernel)]
  decide +kernel

end LoxLex
