import LoxLex.Proofs.Harvest
import LoxLex.Proofs.Session

/-!
# Scripts

A script is read whole, and its diagnostics decide the exit. Each of them is told on a line of its own, and
the lines tell all about them, so scripts of which the same is told have the same diagnostics. Of a script
that cannot be read, or is no text, nothing is told but that.
-/

namespace LoxLex

/-! ## A diagnostic can be read back -/

theorem append_sep_inj {x : Char} {a b r s : List Char} (ha : x ∉ a) (hb : x ∉ b)
    (h : a ++ x :: r = b ++ x :: s) : a = b ∧ r = s := by
  have hx : ∀ r : List Char, Stops (· ≠ x) (x :: r) := fun r => stops_cons (by simp)
  have hab : a = b := by
    have := congrArg (List.takeWhile (· ≠ x)) h
    rwa [takeWhile_run (all_ne ha) (hx r), takeWhile_run (all_ne hb) (hx s)] at this
  subst hab
  exact ⟨rfl, (List.cons.inj (List.append_cancel_left h)).2⟩

theorem Fault.message_injective {e f : Fault} (h : e.message = f.message) : e = f := by
  have hn : ∀ c, "Unexpected character: " ++ String.singleton c ≠ "Unterminated string" := by
    intro c h
    have := congrArg String.length h
    rw [String.length_append, String.length_singleton] at this
    exact absurd this (by decide)
  cases e with
  | unexpectedCharacter c =>
    cases f with
    | unexpectedCharacter d => rw [String.singleton_inj.mp ((String.append_right_inj _).mp h)]
    | unterminatedString => exact absurd h (hn c)
  | unterminatedString =>
    cases f with
    | unexpectedCharacter d => exact absurd h.symm (hn d)
    | unterminatedString => rfl

theorem Fault.line_feed_not_mem_message {e : Fault} (he : e ≠ .unexpectedCharacter '\n') :
    '\n' ∉ e.message.toList := by
  cases e with
  | unexpectedCharacter c =>
    have hp : '\n' ∉ "Unexpected character: ".toList := by decide +kernel
    have hc : '\n' ≠ c := by
      rintro rfl
      exact he rfl
    unfold message
    simp only [String.toList_append, String.toList_singleton, List.mem_append, List.mem_singleton, not_or]
    exact ⟨hp, hc⟩
  | unterminatedString => decide +kernel

theorem not_mem_toDigits {c : Char} (hc : c.isDigit = false) (n : Nat) : c ∉ Nat.toDigits 10 n := by
  intro h
  rw [Nat.isDigit_of_mem_toDigits (by decide) (by decide) h] at hc
  cases hc

theorem toDigits_injective {m n : Nat} (h : Nat.toDigits 10 m = Nat.toDigits 10 n) : m = n := by
  have := congrArg (fun ds => Nat.ofDigitChars 10 ds 0) h
  simpa using this

namespace Diagnostic
variable {d e : Diagnostic}

theorem toList_text (d : Diagnostic) : d.text.toList =
    "[line ".toList ++ (Nat.toDigits 10 d.line ++ ']' :: (" Error: ".toList ++ d.message.toList)) := by
  simp [text, Nat.toString_eq_repr, Nat.toList_repr]

theorem text_injective (h : d.text = e.text) : d = e := by
  have h := congrArg String.toList h
  rw [toList_text, toList_text] at h
  obtain ⟨hl, hm⟩ := append_sep_inj (not_mem_toDigits rfl _) (not_mem_toDigits rfl _)
    (List.append_cancel_left h)
  have hm := String.toList_inj.mp (List.append_cancel_left hm)
  cases d
  cases e
  exact congr (congrArg mk (toDigits_injective hl)) (Fault.message_injective hm)

theorem line_feed_not_mem_text (hd : d.fault ≠ .unexpectedCharacter '\n') : '\n' ∉ d.text.toList := by
  have hp : '\n' ∉ "[line ".toList ∧ '\n' ∉ " Error: ".toList := by decide
  rw [toList_text]
  simp only [List.mem_append, List.mem_cons, not_or]
  exact ⟨hp.1, not_mem_toDigits rfl _, by decide, hp.2, Fault.line_feed_not_mem_message hd⟩

end Diagnostic

theorem toList_join_lines (a : String) (as : List String) :
    (String.join ((a :: as).map (· ++ "\n"))).toList =
      a.toList ++ '\n' :: (String.join (as.map (· ++ "\n"))).toList := by
  simp [String.toList_append]

theorem join_lines_injective : ∀ {as bs : List String}, (∀ a ∈ as, '\n' ∉ a.toList) →
    (∀ b ∈ bs, '\n' ∉ b.toList) →
    String.join (as.map (· ++ "\n")) = String.join (bs.map (· ++ "\n")) → as = bs
  | [], [], _, _, _ => rfl
  | [], b :: bs, _, _, h => by
    have h := congrArg String.toList h
    rw [toList_join_lines] at h
    simp at h
  | a :: as, [], _, _, h => by
    have h := congrArg String.toList h
    rw [toList_join_lines] at h
    simp at h
  | a :: as, b :: bs, ha, hb, h => by
    obtain ⟨ha, has⟩ := List.forall_mem_cons.mp ha
    obtain ⟨hb, hbs⟩ := List.forall_mem_cons.mp hb
    have h := congrArg String.toList h
    rw [toList_join_lines, toList_join_lines] at h
    obtain ⟨hab, h⟩ := append_sep_inj ha hb h
    rw [String.toList_inj.mp hab, join_lines_injective has hbs (String.toList_inj.mp h)]

/-! ## The diagnostics of a text -/

def diagnosticsIn (t : String) : List Diagnostic := (lex t (#[] : Array Diagnostic)).2.toList

theorem diagnosticsIn_eq (t : String) : diagnosticsIn t = diagnosticsOf (Lexer.ofString t).items := by
  rw [diagnosticsIn, lex_eq, toList_foldl_receive]
  rfl

theorem Shape.item?_text {k : Shape} {p r : List Char} {line : Nat} {d : Diagnostic} (hn : Next k p r)
    (hd : k.item? line p = some (.diagnostic d)) : '\n' ∉ d.text.toList := by
  apply Diagnostic.line_feed_not_mem_text
  cases hn with
  | openString => cases hd; exact nofun
  | stray hc =>
    cases hd
    -- a line feed is a blank, so it is never stray
    rintro h
    cases h
    cases hc
  | _ => cases hd

theorem line_feed_not_mem_of_mem {t : String} {d : Diagnostic} (h : d ∈ diagnosticsIn t) :
    '\n' ∉ d.text.toList := by
  obtain ⟨ps, hc⟩ := exists_cut t.toList
  rw [diagnosticsIn_eq, Lexer.items_ofString hc, itemsFrom, diagnosticsOf_append] at h
  obtain ⟨i, hi, hd⟩ := List.mem_filterMap.mp (List.append_nil (diagnosticsOf (itemsOf 1 ps)) ▸ h)
  obtain ⟨q, hq, m, hm⟩ := exists_of_mem_itemsOf hi
  obtain ⟨r, hr⟩ := hc.next_of_mem q hq
  cases i with
  | token => cases hd
  | diagnostic e =>
    cases hd
    exact Shape.item?_text hr hm

/-! ## What is said of a script -/

namespace Settings
variable (s : Settings) (path : String)

theorem script_utf8 (t : String) : s.script path (.ok (utf8 t)) =
    ⟨s.log (.readingFile path) ++ s.outputs ((Lexer.ofString t).harvest #[]),
      if diagnosticsIn t = [] then .success else .lexicalErrors⟩ := by
  have hb : (Except.ok (utf8 t)).bind lexBytes = .ok ((Lexer.ofString t).harvest #[]) := lexBytes_utf8 t
  have he : ((Lexer.ofString t).harvest (#[] : Array Diagnostic)).sink.isEmpty = true ↔ diagnosticsIn t = [] := by
    rw [Array.isEmpty_iff]
    exact Array.toList_eq_nil_iff.symm
  unfold script
  rw [hb]
  simp only [he]

theorem script_error {content : Except ReadFailure (List UInt8)} {why : ReadFailure}
    (h : content.bind lexBytes = .error why) :
    s.script path content = ⟨s.log (.readingFile path) ++ s.giveUp why, .unreadable⟩ := by
  unfold script
  rw [h]

end Settings

theorem exists_failure {content : Except ReadFailure (List UInt8)} (hn : ∀ t, content ≠ .ok (utf8 t)) :
    ∃ why, content.bind lexBytes = .error why ∧ (∀ why', content = .error why' → why = why') ∧
      ∀ bs, content = .ok bs → why = .invalidUtf8 := by
  cases content with
  | error why => exact ⟨why, rfl, fun _ => Except.error.inj, nofun⟩
  | ok bs =>
    have hb : lexBytes bs = .error .invalidUtf8 := lexBytes_of_not_utf8 fun t ht => hn t (by rw [ht])
    exact ⟨.invalidUtf8, hb, nofun, fun _ _ => rfl⟩

section
variable {w : Surroundings} {o : Options} {path : String}
  (hr : Request.ofArguments w.arguments = .ok (.run o)) (hs : o.script = some path)
include hr hs

theorem run_script_utf8 {t : String} (ht : w.fileAt path = .ok (utf8 t)) :
    (run w).exit.code = (if diagnosticsIn t = [] then 0 else 65) ∧
      (run w).stdout = (if o.quiet then "" else listing (lex t (#[] : Array Diagnostic)).1) ∧
      (run w).complaints = .join ((diagnosticsIn t).map fun d => d.text ++ "\n") := by
  rw [run_eq_perform hr, hs, Settings.perform, ht, Settings.script_utf8]
  refine ⟨?_, ?_, ?_⟩
  · split <;> rfl
  · rw [Outcome.stdout, Settings.join_log_append _ fun _ => rfl, Settings.stdout_outputs]
    rfl
  · rw [Outcome.complaints, Settings.join_log_append _ fun _ => rfl, Settings.complaints_outputs]
    rfl

theorem run_script_error {why : ReadFailure} (hw : (w.fileAt path).bind lexBytes = .error why) :
    (run w).exit.code = 74 ∧ (run w).stdout = "" ∧ (∀ d, .diagnostic d ∉ (run w).outputs) ∧
      (run w).complaints = why.text ++ "\n" := by
  rw [run_eq_perform hr, hs, Settings.perform, Settings.script_error _ _ hw]
  refine ⟨rfl, ?_, fun d hd => ?_, ?_⟩
  · rw [Outcome.stdout, Settings.join_log_append _ fun _ => rfl, Settings.join_giveUp _ fun _ => rfl]
    rfl
  · simp [Settings.giveUp, Settings.log] at hd
  · rw [Outcome.complaints, Settings.join_log_append _ fun _ => rfl, Settings.join_giveUp _ fun _ => rfl]
    rfl

end

theorem diagnosticsIn_injective {t t' : String}
    (h : String.join ((diagnosticsIn t).map fun d => d.text ++ "\n") =
      String.join ((diagnosticsIn t').map fun d => d.text ++ "\n")) : diagnosticsIn t = diagnosticsIn t' := by
  have hl : ∀ t, ∀ a ∈ (diagnosticsIn t).map Diagnostic.text, '\n' ∉ a.toList := by
    intro t a ha
    obtain ⟨d, hd, rfl⟩ := List.mem_map.mp ha
    exact line_feed_not_mem_of_mem hd
  have h := join_lines_injective (hl t) (hl t') (by simpa only [List.map_map, Function.comp_def] using h)
  exact (List.map_inj_right fun _ _ => Diagnostic.text_injective).mp h

/-- **Scripts.** A text is listed, and its diagnostics are told in the order of the text, each on a line of its
own, so that the lines tell which they were. -/
theorem run_script (w : Surroundings) {o : Options} {path : String}
    (hr : Request.ofArguments w.arguments = .ok (.run o)) (hs : o.script = some path) :
    ((∀ t, w.fileAt path ≠ .ok (utf8 t)) →
      (run w).exit.code = 74 ∧ (run w).stdout = "" ∧ (∀ d, .diagnostic d ∉ (run w).outputs) ∧
      (∀ why, w.fileAt path = .error why → (run w).complaints = why.text ++ "\n") ∧
      ∀ bs, w.fileAt path = .ok bs → (run w).complaints = "stream did not contain valid UTF-8\n") ∧
    ∀ t, w.fileAt path = .ok (utf8 t) →
      (run w).exit.code = (if diagnosticsIn t = [] then 0 else 65) ∧
      (run w).stdout = (if o.quiet then "" else listing (lex t (#[] : Array Diagnostic)).1) ∧
      (run w).complaints = .join ((diagnosticsIn t).map fun d =>
        "[line " ++ toString d.line ++ "] Error: " ++ d.message ++ "\n") ∧
      (∀ d ∈ diagnosticsIn t, '\n' ∉ d.text.toList) ∧
      diagnosticsIn t = diagnosticsOf (Lexer.ofString t).items ∧
      ∀ (w' : Surroundings) (o' : Options) (path' t' : String),
        Request.ofArguments w'.arguments = .ok (.run o') → o'.script = some path' →
        w'.fileAt path' = .ok (utf8 t') → (run w').complaints = (run w).complaints →
        diagnosticsIn t' = diagnosticsIn t := by
  refine ⟨fun hn => ?_, fun t ht => ?_⟩
  · obtain ⟨why, hw, he, hb⟩ := exists_failure hn
    obtain ⟨h₁, h₂, h₃, h₄⟩ := run_script_error hr hs hw
    refine ⟨h₁, h₂, h₃, fun why' h => ?_, fun bs h => ?_⟩
    · rw [h₄, he why' h]
    · rw [h₄, hb bs h]
      rfl
  · obtain ⟨h₁, h₂, h₃⟩ := run_script_utf8 hr hs ht
    refine ⟨h₁, h₂, h₃, fun d => line_feed_not_mem_of_mem, diagnosticsIn_eq t, ?_⟩
    intro w' o' path' t' hr' hs' ht' h
    rw [h₃, (run_script_utf8 hr' hs' ht').2.2] at h
    exact diagnosticsIn_injective h

/-- Two scripts with a stray character and an open string, and one that is no text. -/
theorem run_script_two_faults_and_not_utf8 :
    (fun o : Outcome => (o.exit.code, o.stdout, o.complaints))
        (run ⟨["a"], none, fun _ => .ok [64, 10, 34, 97], []⟩) =
      (65, "   2 EOF\n",
        "[line 1] Error: Unexpected character: @\n[line 2] Error: Unterminated string\n") ∧
    diagnosticsIn "(@)\n1\"" = diagnosticsIn "@\n\"a" ∧
    (fun o : Outcome => (o.exit.code, o.stdout, o.complaints))
        (run ⟨["a"], none, fun _ => .ok [64, 255], []⟩) =
      (74, "", "stream did not contain valid UTF-8\n") := by
  have hn : ∀ t, Except.ok [64, 255] ≠ (Except.ok (utf8 t) : Except ReadFailure (List UInt8)) := by
    intro t ht
    have hd : decodeUtf8? [64, 255] = none := by decide +kernel
    rw [decodeUtf8?_eq_some_iff.mpr (Except.ok.inj ht).symm] at hd
    cases hd
  have hu : [64, 10, 34, 97] = utf8 "@\n\"a" := by decide +kernel
  have hu' : [40, 64, 41, 10, 49, 34] = utf8 "(@)\n1\"" := by decide +kernel
  have h := (run_script ⟨["a"], none, fun _ => .ok [64, 10, 34, 97], []⟩ (o := ⟨false, false, some "a"⟩)
    rfl rfl).2 "@\n\"a" (congrArg Except.ok hu)
  have h' := (run_script ⟨["a"], none, fun _ => .ok [40, 64, 41, 10, 49, 34], []⟩
    (o := ⟨false, false, some "a"⟩) rfl rfl).2 "(@)\n1\"" (congrArg Except.ok hu')
  have hb := (run_script ⟨["a"], none, fun _ => .ok [64, 255], []⟩ (o := ⟨false, false, some "a"⟩)
    rfl rfl).1 hn
  refine ⟨?_, ?_, ?_⟩
  · simp only [h.1, h.2.1, h.2.2.1]
    decide +kernel
  · refine h.2.2.2.2.2 ⟨["a"], none, fun _ => .ok [40, 64, 41, 10, 49, 34], []⟩ ⟨false, false, some "a"⟩
      "a" "(@)\n1\"" rfl rfl (congrArg Except.ok hu') ?_
    rw [h.2.2.1, h'.2.2.1]
    decide +kernel
  · simp only [hb.1, hb.2.1, hb.2.2.2.2 _ rfl]

end LoxLex
