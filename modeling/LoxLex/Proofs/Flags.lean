import LoxLex.Proofs.Script

/-!
# Flags

No flag changes what another part of a run says. A quiet run is the run that is not quiet less its listings,
and runs that log differently are alike but for their log lines. To compare two runs both are compared with
one that is made from them by leaving outputs out.
-/

namespace LoxLex

def Output.isListing : Output → Bool
  | .listing _ => true
  | _ => false

def Output.isLog : Output → Bool
  | .log _ => true
  | _ => false

def Outcome.keep (p : Output → Bool) (o : Outcome) : Outcome := { o with outputs := o.outputs.filter p }

theorem join_filter {α : Type} {p : α → Bool} {f : α → String} (h : ∀ a, p a = false → f a = "")
    (as : List α) : String.join ((as.filter p).map f) = String.join (as.map f) := by
  induction as with
  | nil => rfl
  | cons a as ih =>
    rw [List.map_cons, String.join_cons, ← ih]
    cases hp : p a with
    | true => rw [List.filter_cons_of_pos hp, List.map_cons, String.join_cons]
    | false => rw [List.filter_cons_of_neg (by simp [hp]), h a hp, String.empty_append]

namespace Outcome
variable (o : Outcome)

theorem stderr_without_listings : (o.keep fun x => !x.isListing).stderr = o.stderr := by
  refine join_filter (fun x hx => ?_) _
  cases x with
  | listing => rfl
  | _ => cases hx

theorem stdout_without_log : (o.keep fun x => !x.isLog).stdout = o.stdout := by
  refine join_filter (fun x hx => ?_) _
  cases x with
  | log => rfl
  | _ => cases hx

theorem complaints_without_log : (o.keep fun x => !x.isLog).complaints = o.complaints := by
  refine join_filter (fun x hx => ?_) _
  cases x with
  | log => rfl
  | _ => cases hx

end Outcome

/-! ## Settings that leave outputs out -/

namespace Settings

def Turn.keep (p : Output → Bool) : Turn → Turn
  | .next outputs => .next (outputs.filter p)
  | .last o => .last (o.keep p)

/-- With `s'` the same is said as with `s`, less the outputs that `p` rejects. -/
structure Drops (p : Output → Bool) (s s' : Settings) : Prop where
  outputs : ∀ h, s'.outputs h = (s.outputs h).filter p
  log : ∀ r, s'.log r = (s.log r).filter p
  prompt : p .prompt = true
  failure : ∀ why, p (.failure why) = true

namespace Drops
variable {p : Output → Bool} {s s' : Settings} (h : Drops p s s')
include h

theorem giveUp (why : ReadFailure) : s'.giveUp why = (s.giveUp why).filter p := by
  rw [Settings.giveUp, Settings.giveUp, List.filter_append, h.log,
    List.filter_cons_of_pos (h.failure why), List.filter_nil]

theorem script (path : String) (content : Except ReadFailure (List UInt8)) :
    s'.script path content = (s.script path content).keep p := by
  unfold Settings.script
  cases content.bind lexBytes with
  | error why => simp only [Outcome.keep, List.filter_append, h.log, h.giveUp]
  | ok g => simp only [Outcome.keep, List.filter_append, h.log, h.outputs]

theorem turn (line : Option (List UInt8)) : s'.turn line = (s.turn line).keep p := by
  cases line with
  | none => rfl
  | some line =>
    rw [Settings.turn, Settings.turn]
    cases lexBytes line with
    | error why => simp only [Turn.keep, Outcome.keep, h.giveUp]
    | ok g => simp only [Turn.keep, h.outputs]

theorem session_go (lines : List (List UInt8)) {done done' : Array Output}
    (hd : done'.toList = done.toList.filter p) :
    session.go s' lines done' = (session.go s lines done).keep p := by
  fun_induction session.go s lines done generalizing done' with
  | case1 lines done outputs hn ih =>
    have hn' : s'.turn lines.head? = .next (outputs.filter p) := by
      rw [h.turn, hn]
      rfl
    rw [session_go_next hn']
    apply ih
    simp [hd, h.prompt]
  | case2 lines done o hl =>
    have hl' : s'.turn lines.head? = .last (o.keep p) := by
      rw [h.turn, hl]
      rfl
    rw [session_go_last hl']
    simp [Outcome.keep, hd, h.prompt]

theorem perform (w : Surroundings) (script : Option String) :
    s'.perform w script = (s.perform w script).keep p := by
  cases script with
  | some path => exact h.script path _
  | none => exact h.session_go _ rfl

end Drops

section
variable (s : Settings)

theorem filter_log {p : Output → Bool} {b : Bool} (hp : ∀ line, p (.log line) = b) (r : LogRecord) :
    (s.log r).filter p = if b then s.log r else [] := by
  unfold log
  cases s.filter.line? r with
  | none => cases b <;> rfl
  | some line => cases b <;> simp [hp]

theorem filter_outputs {p : Output → Bool} {b : Bool} (hp : ∀ line, p (.log line) = b)
    (hd : ∀ d, p (.diagnostic d) = true) (h : Harvest (Array Diagnostic)) :
    (s.outputs h).filter p =
      (if b then h.events.toList.flatMap (fun e => s.log (.lexing e)) else []) ++
        (if s.quiet then [] else [.listing h.tokens.toList]).filter p ++ h.sink.toList.map .diagnostic := by
  have hl : (h.sink.toList.map Output.diagnostic).filter p = h.sink.toList.map .diagnostic := by
    refine List.filter_eq_self.mpr fun x hx => ?_
    obtain ⟨d, _, rfl⟩ := List.mem_map.mp hx
    exact hd d
  unfold outputs
  rw [List.filter_append, List.filter_append, hl, List.filter_flatMap]
  simp only [s.filter_log hp]
  cases b <;> simp

theorem drops_quiet (hs : s.quiet = false) :
    Drops (fun x => !x.isListing) s { s with quiet := true } where
  outputs h := by
    rw [s.filter_outputs (fun _ => rfl) (fun _ => rfl), hs]
    rfl
  log r := by
    rw [s.filter_log fun _ => rfl]
    rfl
  prompt := rfl
  failure _ := rfl

/-- No directive admits nothing, since no record is of the level `off`. -/
theorem log_without_directives (r : LogRecord) : log { s with filter := ⟨[]⟩ } r = [] := by
  cases r with
  | readingFile | unreadable => rfl
  | lexing e => cases e <;> rfl

theorem drops_log : Drops (fun x => !x.isLog) s { s with filter := ⟨[]⟩ } where
  outputs h := by
    rw [s.filter_outputs (fun _ => rfl) (fun _ => rfl)]
    unfold outputs
    simp only [log_without_directives]
    cases s.quiet <;> simp [Output.isLog]
  log r := by
    rw [s.filter_log fun _ => rfl, log_without_directives]
    rfl
  prompt := rfl
  failure _ := rfl

end
end Settings

/-! ## Two runs -/

/-- Lines are texts up to the first that is none. -/
theorem exists_texts (ls : List (List UInt8)) : ∃ ts : List String,
    ls = ts.map utf8 ∨ ∃ bad later, ls = ts.map utf8 ++ bad :: later ∧ ∀ t, utf8 t ≠ bad := by
  induction ls with
  | nil => exact ⟨[], .inl rfl⟩
  | cons l ls ih =>
    by_cases hl : ∃ t, utf8 t = l
    · obtain ⟨t, rfl⟩ := hl
      obtain ⟨ts, rfl | ⟨bad, later, rfl, hb⟩⟩ := ih
      · exact ⟨t :: ts, .inl rfl⟩
      · exact ⟨t :: ts, .inr ⟨bad, later, rfl, hb⟩⟩
    · exact ⟨[], .inr ⟨l, ls, rfl, not_exists.mp hl⟩⟩

/-- What is prompted and listed on the same lines is the same under all settings, the quiet flag apart. -/
theorem exists_stdout_session (ls : List (List UInt8)) : ∃ ts : List String, ∀ s : Settings,
    (s.session ls).stdout = String.join (ts.map fun t => "> " ++ lineListing s.quiet t) ++ "> " := by
  obtain ⟨ts, rfl | ⟨bad, later, rfl, hb⟩⟩ := exists_texts ls
  · refine ⟨ts, fun s => ?_⟩
    rw [s.session_utf8, Outcome.stdout, List.map_append, String.join_append, s.stdout_answers]
    rfl
  · refine ⟨ts, fun s => ?_⟩
    rw [s.session_not_utf8 ts hb, Outcome.stdout, List.map_append, String.join_append, s.stdout_answers,
      List.map_cons, String.join_cons, Settings.join_giveUp _ fun _ => rfl]
    rfl

theorem stdout_script_quiet {w : Surroundings} {o : Options} {path : String}
    (hr : Request.ofArguments w.arguments = .ok (.run o)) (hs : o.script = some path) (hq : o.quiet = true) :
    (run w).stdout = "" := by
  by_cases ht : ∃ t, w.fileAt path = .ok (utf8 t)
  · obtain ⟨t, ht⟩ := ht
    rw [(run_script_utf8 hr hs ht).2.1, hq]
    rfl
  · obtain ⟨why, hw, _⟩ := exists_failure (not_exists.mp ht)
    exact (run_script_error hr hs hw).2.1

theorem Settings.perform_congr {w w' : Surroundings} (hf : w'.fileAt = w.fileAt) (hi : w'.input = w.input)
    (s : Settings) (script : Option String) : s.perform w' script = s.perform w script := by
  cases script <;> simp only [perform, hf, hi]

section
variable {w w' : Surroundings} {o o' : Options} (hr : Request.ofArguments w.arguments = .ok (.run o))
  (hr' : Request.ofArguments w'.arguments = .ok (.run o')) (hs : o'.script = o.script)
  (hf : w'.fileAt = w.fileAt) (hi : w'.input = w.input)
include hr hr' hs hf hi

theorem run_quiet (hq : o.quiet = false) (hq' : o'.quiet = true) (hv : o'.verbose = o.verbose)
    (hl : w'.logSetting = w.logSetting) : run w' = (run w).keep fun x => !x.isListing := by
  have hd := (Settings.ofOptions o w.logSetting).drops_quiet hq
  have he : Settings.ofOptions o' w'.logSetting =
      { Settings.ofOptions o w.logSetting with quiet := true } := by
    rw [Settings.ofOptions, Settings.ofOptions, hq', hv, hl]
  rw [run_eq_perform hr', run_eq_perform hr, he, Settings.perform_congr hf hi, hs, hd.perform]

theorem run_log (hq : o'.quiet = o.quiet) :
    (run w').keep (fun x => !x.isLog) = (run w).keep fun x => !x.isLog := by
  have he : { Settings.ofOptions o' w'.logSetting with filter := ⟨[]⟩ } =
      { Settings.ofOptions o w.logSetting with filter := ⟨[]⟩ } := by
    rw [Settings.ofOptions, Settings.ofOptions, hq]
  rw [run_eq_perform hr', run_eq_perform hr, ← (Settings.drops_log _).perform,
    ← (Settings.drops_log _).perform, he, Settings.perform_congr hf hi, hs]

end

/-- **Flags.** The quiet flag takes the listings out of standard output, and that is all it does. The verbose
flag and the log setting change log lines, and nothing else. -/
theorem run_flags (w w' : Surroundings) {o o' : Options}
    (hr : Request.ofArguments w.arguments = .ok (.run o))
    (hr' : Request.ofArguments w'.arguments = .ok (.run o')) (hs : o'.script = o.script)
    (hf : w'.fileAt = w.fileAt) (hi : w'.input = w.input) :
    (o.quiet = false → o'.quiet = true → o'.verbose = o.verbose → w'.logSetting = w.logSetting →
      (run w').exit.code = (run w).exit.code ∧ (run w').stderr = (run w).stderr ∧
      (run w').outputs = (run w).outputs.filter (fun x => !x.isListing) ∧
      (o.script ≠ none → (run w').stdout = "") ∧
      (o.script = none → ∃ ts : List String,
        (run w).stdout =
          .join (ts.map fun t => "> " ++ listing (lex t (#[] : Array Diagnostic)).1) ++ "> " ∧
        (run w').stdout = .join (ts.map fun _ => "> ") ++ "> ")) ∧
    (o'.quiet = o.quiet →
      (run w').exit.code = (run w).exit.code ∧ (run w').stdout = (run w).stdout ∧
      (run w').complaints = (run w).complaints ∧
      (run w').outputs.filter (fun x => !x.isLog) = (run w).outputs.filter (fun x => !x.isLog)) := by
  refine ⟨fun hq hq' hv hl => ?_, fun hq => ?_⟩
  · have h := run_quiet hr hr' hs hf hi hq hq' hv hl
    refine ⟨by rw [h]; rfl, by rw [h, Outcome.stderr_without_listings], by rw [h]; rfl, fun hp => ?_,
      fun hp => ?_⟩
    · obtain ⟨path, hp⟩ := Option.ne_none_iff_exists'.mp hp
      exact stdout_script_quiet hr' (hs.trans hp) hq'
    · obtain ⟨ts, ht⟩ := exists_stdout_session (splitLines w.input)
      refine ⟨ts, ?_, ?_⟩
      · rw [run_eq_perform hr, hp]
        refine (ht _).trans ?_
        rw [Settings.ofOptions, hq]
        rfl
      · rw [run_eq_perform hr', Settings.perform_congr hf hi, hs, hp]
        refine (ht _).trans ?_
        rw [Settings.ofOptions, hq']
        rfl
  · have h := run_log hr hr' hs hf hi hq
    have he := congrArg Outcome.exit h
    have ho := congrArg Outcome.stdout h
    have hc := congrArg Outcome.complaints h
    rw [Outcome.stdout_without_log, Outcome.stdout_without_log] at ho
    rw [Outcome.complaints_without_log, Outcome.complaints_without_log] at hc
    exact ⟨congrArg Exit.code he, ho, hc, congrArg Outcome.outputs h⟩

/-- A word, a stray character and a line that is no text, typed three times: with log lines, with log lines but
no listings, and without either log lines or the flag for them. -/
theorem run_flags_third_line_not_utf8 :
    ((run ⟨["-v", "-q"], none, fun _ => .error .notFound, [97, 10, 64, 10, 255]⟩).exit.code =
        (run ⟨["-v"], none, fun _ => .error .notFound, [97, 10, 64, 10, 255]⟩).exit.code ∧
      (run ⟨["-v", "-q"], none, fun _ => .error .notFound, [97, 10, 64, 10, 255]⟩).stderr =
        (run ⟨["-v"], none, fun _ => .error .notFound, [97, 10, 64, 10, 255]⟩).stderr) ∧
    (run ⟨[], some "off", fun _ => .error .notFound, [97, 10, 64, 10, 255]⟩).stdout =
        (run ⟨["-v"], none, fun _ => .error .notFound, [97, 10, 64, 10, 255]⟩).stdout ∧
      (run ⟨[], some "off", fun _ => .error .notFound, [97, 10, 64, 10, 255]⟩).complaints =
        (run ⟨["-v"], none, fun _ => .error .notFound, [97, 10, 64, 10, 255]⟩).complaints := by
  have hv : Request.ofArguments ["-v"] = .ok (.run ⟨false, true, none⟩) := rfl
  have hq : Request.ofArguments ["-v", "-q"] = .ok (.run ⟨true, true, none⟩) := rfl
  have hn : Request.ofArguments [] = .ok (.run ⟨false, false, none⟩) := rfl
  have h₁ := (run_flags ⟨["-v"], none, fun _ => .error .notFound, [97, 10, 64, 10, 255]⟩
    ⟨["-v", "-q"], none, fun _ => .error .notFound, [97, 10, 64, 10, 255]⟩ hv hq rfl rfl rfl).1 rfl rfl rfl rfl
  have h₂ := (run_flags ⟨["-v"], none, fun _ => .error .notFound, [97, 10, 64, 10, 255]⟩
    ⟨[], some "off", fun _ => .error .notFound, [97, 10, 64, 10, 255]⟩ hv hn rfl rfl rfl).2 rfl
  exact ⟨⟨h₁.1, h₁.2.1⟩, h₂.2.1, h₂.2.2.1⟩

end LoxLex
