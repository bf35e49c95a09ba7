import Preflight.Proofs.FirstFailure

/-!
# Calls and results

What a report says and what was executed come from different places of the loop:
a result is left for every step that the run gets to, a call is made in one branch
only. The calls are seen by watching the run (`Runner.calls`).

That they match is told by courses. A step is only called when everything it
depends on has succeeded, and what has succeeded was called before: either it is
among the calls of the course so far, or it was settled before the course began.
For a whole run there is no such before.

## Main results

* `Course.results_of_calls` — the results that are not skipped belong one by one to
  the calls.
* `Course.call_follows_dependency` — a step is called after the one it depends on.
* `Runner.calls_match_report` — the calls of a run are what its report says.
-/

namespace Preflight

variable {σ : Type}

/-- A status on top of the others hides at most that of its own name. -/
theorem lookup_eq_of_lookup_cons {settled : List (String × StepStatus)} {name other : String}
    {status found : StepStatus} (h : ((name, status) :: settled).lookup other = some found) :
    (other = name ∧ status = found) ∨ settled.lookup other = some found := by
  rw [List.lookup_cons] at h
  by_cases hname : other = name
  · subst hname
    exact .inl ⟨rfl, by simpa using h⟩
  · have hkey : (other == name) = false := by simpa using hname
    rw [hkey] at h
    exact .inr h

namespace Course

variable {policy : RunPolicy} {settled : List (String × StepStatus)} {steps : List (Step σ)}
  {calls : List Call} {earlier later : List StepResult}

/-- **The results that are not skipped belong one by one to the calls.** Each of
them is what the step makes of the attempt that its probe came to. -/
theorem results_of_calls (course : Course policy settled steps calls later) :
    List.Forall₂ (fun call result => ∃ step ∈ steps, step.name = call.name ∧
        result = step.result call.attempt)
      calls (later.filter fun result => result.status ≠ .skipped) := by
  induction course with
  | done => exact .nil
  | @skip _ step rest _ _ dependency _ _ ih =>
      have hskipped : (StepResult.skipped step.name dependency).status = .skipped := rfl
      rw [List.filter_cons_of_neg (by simp [hskipped])]
      exact ih.imp fun _ _ ⟨next, hnext, h⟩ => ⟨next, List.mem_cons_of_mem _ hnext, h⟩
  | @halt _ step _ attempt _ _ _ =>
      rw [List.filter_cons_of_pos (by simpa using step.status_result_ne_skipped attempt)]
      exact .cons ⟨step, List.mem_cons_self, rfl, rfl⟩ .nil
  | @call _ step rest _ _ attempt _ _ _ ih =>
      rw [List.filter_cons_of_pos (by simpa using step.status_result_ne_skipped attempt)]
      refine .cons ⟨step, List.mem_cons_self, rfl, rfl⟩ ?_
      exact ih.imp fun _ _ ⟨next, hnext, h⟩ => ⟨next, List.mem_cons_of_mem _ hnext, h⟩

/-- **A step is called after the one it depends on**, and only if that succeeded.
The one it depends on was called in this course, or it was settled before. -/
theorem call_follows_dependency (course : Course policy settled steps calls later)
    (htallies : Tallies settled earlier)
    (hfits : stepsFault? (settled.map Prod.fst) steps = none) {before after : List Call}
    {call : Call} (hsplit : calls = before ++ call :: after) :
    ∃ step ∈ steps, step.name = call.name ∧
      ∀ dependency, step.dependsOn = some dependency →
        statusIn (earlier ++ later) dependency = some .succeeded ∧
          (dependency ∈ before.map Call.name ∨
            settled.lookup dependency = some .succeeded) := by
  induction course generalizing earlier before with
  | done => simp at hsplit
  | @skip settled step rest calls later dependency _ _ ih =>
      obtain ⟨hfresh, _, hrest⟩ := stepsFault?_cons_eq_none_iff.mp hfits
      obtain ⟨next, hnext, hname, hdepends⟩ :=
        ih (htallies.concat (.skipped step.name dependency) hfresh) hrest hsplit
      refine ⟨next, List.mem_cons_of_mem _ hnext, hname, fun other hother => ?_⟩
      obtain ⟨hstatus, hcalled⟩ := hdepends other hother
      rw [List.append_cons]
      refine ⟨hstatus, hcalled.imp_right fun hlookup => ?_⟩
      -- a skipped step has not succeeded, so it is not what `next` depends on
      obtain ⟨_, hskipped⟩ | hsettled := lookup_eq_of_lookup_cons hlookup
      · cases hskipped
      · exact hsettled
  | @halt settled step rest attempt free _ _ =>
      obtain ⟨rfl, rfl, _⟩ : before = [] ∧ call = ⟨step.name, attempt⟩ ∧ after = [] := by
        simpa [List.singleton_eq_append_iff, and_assoc] using hsplit
      refine ⟨step, List.mem_cons_self, rfl, fun dependency hdepends => ?_⟩
      exact ⟨htallies.statusIn_of_free hfits free _ hdepends,
        .inr (Runner.obstacle?_eq_none_iff.mp free dependency hdepends)⟩
  | @call settled step rest calls later attempt free _ _ ih =>
      obtain ⟨hfresh, _, hrest⟩ := stepsFault?_cons_eq_none_iff.mp hfits
      rcases List.cons_eq_append_iff.mp hsplit with ⟨rfl, hhead⟩ | ⟨before, rfl, hlater⟩
      · obtain ⟨rfl, _⟩ := List.cons.inj hhead
        refine ⟨step, List.mem_cons_self, rfl, fun dependency hdepends => ?_⟩
        exact ⟨htallies.statusIn_of_free hfits free _ hdepends,
          .inr (Runner.obstacle?_eq_none_iff.mp free dependency hdepends)⟩
      · rw [← step.name_result attempt] at hfresh hrest ih
        obtain ⟨next, hnext, hname, hdepends⟩ :=
          ih (htallies.concat (step.result attempt) hfresh) hrest hlater
        refine ⟨next, List.mem_cons_of_mem _ hnext, hname, fun other hother => ?_⟩
        obtain ⟨hstatus, hcalled⟩ := hdepends other hother
        rw [List.append_cons, List.map_cons, List.mem_cons]
        refine ⟨hstatus, ?_⟩
        rcases hcalled with hbefore | hlookup
        · exact .inl (.inr hbefore)
        · obtain ⟨hsame, _⟩ | hsettled := lookup_eq_of_lookup_cons hlookup
          · exact .inl (.inl (hsame.trans (step.name_result attempt)))
          · exact .inr hsettled

end Course

/-- **The calls of a run are what its report says.** The probes called are those of
the results that are not skipped, in the order of the report; none is called twice;
and a step is called only after the one it depends on, and only if that one
succeeded in this run. -/
theorem Runner.calls_match_report (runner : Runner σ) (service : String) (policy : RunPolicy)
    (stamp : Timestamp) (world : σ) :
    let report := runner.report service policy stamp world
    let calls := runner.calls service policy stamp world
    calls.map Call.name =
        (report.steps.filter fun result => result.status ≠ .skipped).map StepResult.name ∧
      (calls.map Call.name).Nodup ∧
      ∀ step ∈ runner.steps, ∀ dependency, step.dependsOn = some dependency →
        ∀ before call after, calls = before ++ call :: after → call.name = step.name →
          dependency ∈ before.map Call.name ∧
            ∃ result, report.step? dependency = some result ∧ result.status = .succeeded := by
  intro report calls
  have course := runner.course_report service policy stamp world
  refine ⟨course.names_calls, runner.nodup_names_calls service policy stamp world, ?_⟩
  intro step hstep dependency hdepends before call after hsplit hname
  obtain ⟨caller, hcaller, hcalled, hfollows⟩ :=
    course.call_follows_dependency .nil runner.accepted hsplit
  obtain rfl : caller = step := runner.eq_of_name_eq hcaller hstep (hcalled.trans hname)
  obtain ⟨hstatus, hbefore | hlookup⟩ := hfollows dependency hdepends
  · exact ⟨hbefore, Option.map_eq_some_iff.mp hstatus⟩
  · cases hlookup

theorem Runner.calls_match_report_slowUsers :
    let report := slowUsersCheck.report "Neo4j" .collectAll .epoch 0
    let calls := slowUsersCheck.calls "Neo4j" .collectAll .epoch 0
    calls.map Call.name = ["CheckAccess", "GetUsers", "GetOwners"] ∧
      slowUsersStep "GetOwners" (some "CheckAccess") none ∈ slowUsersCheck.steps ∧
      ∃ result, report.step? "CheckAccess" = some result ∧ result.status = .succeeded := by
  intro report calls
  obtain ⟨hnames, _, hfollows⟩ :=
    Runner.calls_match_report slowUsersCheck "Neo4j" .collectAll .epoch 0
  have howners : slowUsersStep "GetOwners" (some "CheckAccess") none ∈ slowUsersCheck.steps := by
    simp [slowUsersCheck]
  have hsplit : calls = [⟨"CheckAccess", ⟨1, .ok ()⟩⟩, ⟨"GetUsers", ⟨9, .ok ()⟩⟩] ++
      ⟨"GetOwners", ⟨1, .ok ()⟩⟩ :: [] := rfl
  exact ⟨hnames.trans rfl, howners,
    (hfollows _ howners "CheckAccess" rfl _ _ _ hsplit rfl).2⟩

end Preflight
