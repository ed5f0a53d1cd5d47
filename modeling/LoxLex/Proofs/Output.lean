import LoxLex.Command.Run

/-!
# What outputs say

Standard output shows prompts, listings and notices, standard error all the rest. The reading of a text says
its listing on the one and its diagnostics on the other, between log lines.
-/

namespace LoxLex

theorem join_eq_empty {ss : List String} (h : ∀ s ∈ ss, s = "") : String.join ss = "" := by
  induction ss with
  | nil => rfl
  | cons s ss ih =>
    obtain ⟨hs, hss⟩ := List.forall_mem_cons.mp h
    rw [String.join_cons, hs, ih hss, String.empty_append]

theorem join_flatMap {α β : Type} (f : β → String) (g : α → List β) (as : List α) :
    String.join ((as.flatMap g).map f) = String.join (as.map fun a => String.join ((g a).map f)) := by
  induction as with
  | nil => rfl
  | cons a as ih => simp [ih]

/-- What an output says on standard error, log lines apart. -/
def Output.complaint : Output → String
  | .log _ => ""
  | o => o.toStderr

def Outcome.complaints (o : Outcome) : String := .join (o.outputs.map Output.complaint)

namespace Settings
variable (s : Settings) (h : Harvest (Array Diagnostic))

theorem join_log {f : Output → String} (hf : ∀ line, f (.log line) = "") (r : LogRecord) :
    String.join ((s.log r).map f) = "" := by
  unfold log
  cases s.filter.line? r with
  | none => rfl
  | some line => simp [hf]

theorem join_log_append {f : Output → String} (hf : ∀ line, f (.log line) = "") (r : LogRecord)
    (os : List Output) : String.join ((s.log r ++ os).map f) = String.join (os.map f) := by
  rw [List.map_append, String.join_append, s.join_log hf, String.empty_append]

theorem join_outputs {f : Output → String} (hf : ∀ line, f (.log line) = "") :
    String.join ((s.outputs h).map f) =
      (if s.quiet then "" else f (.listing h.tokens.toList)) ++
        String.join (h.sink.toList.map fun d => f (.diagnostic d)) := by
  have hl : String.join ((h.events.toList.flatMap fun e => s.log (.lexing e)).map f) = "" := by
    rw [join_flatMap]
    refine join_eq_empty fun t ht => ?_
    obtain ⟨e, _, rfl⟩ := List.mem_map.mp ht
    exact s.join_log hf _
  unfold outputs
  rw [List.map_append, List.map_append, String.join_append, String.join_append, hl, List.map_map]
  cases s.quiet <;> simp [Function.comp_def]

theorem stdout_outputs : String.join ((s.outputs h).map Output.toStdout) =
    if s.quiet then "" else listing h.tokens.toList := by
  have hd : String.join (h.sink.toList.map fun d => Output.toStdout (.diagnostic d)) = "" :=
    join_eq_empty fun t ht => by
      obtain ⟨d, _, rfl⟩ := List.mem_map.mp ht
      rfl
  rw [join_outputs s h fun _ => rfl, hd, String.append_empty]
  rfl

theorem complaints_outputs : String.join ((s.outputs h).map Output.complaint) =
    String.join (h.sink.toList.map fun d => d.text ++ "\n") := by
  rw [join_outputs s h fun _ => rfl]
  cases s.quiet <;> exact String.empty_append

theorem join_giveUp {f : Output → String} (hf : ∀ line, f (.log line) = "") (why : ReadFailure) :
    String.join ((s.giveUp why).map f) = f (.failure why) := by
  rw [giveUp, s.join_log_append hf]
  simp

end Settings

theorem run_eq_perform {w : Surroundings} {o : Options} (hr : Request.ofArguments w.arguments = .ok (.run o)) :
    run w = (Settings.ofOptions o w.logSetting).perform w o.script := by
  rw [run, Job.ofArguments, hr]

end LoxLex
