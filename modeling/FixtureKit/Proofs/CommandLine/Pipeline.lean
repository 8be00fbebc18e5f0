import FixtureKit.CommandLine.Run
import FixtureKit.Proofs.Fixtures.Runs
import Mathlib.Data.List.Count

/-!
# From Arguments to Fixtures

The command line asks for a destination, for compression, for verification, and for more messages.
Each of the first three is asked for once at most, in whatever order, and the reading of arguments
comes to the same settings. The settings then decide what is made, what is verified and what is
printed; the messages are written elsewhere and decide nothing.

## Main results

* `Arguments.Reached.step`, `Arguments.Reached.run`: what one argument adds to a reading, and what
  all of them amount to.
* `settings_of_proper`: the settings that arguments come to.
* `Settings.concludes_run`: the ways in which the work ends that settings ask for.
* `run_pipeline`: a run is making, then verifying if asked to, and printing the report of what has
  been made.
-/

namespace FixtureKit

/-- What an argument asks for. -/
inductive Request
  | destination (text : String)
  | deflate
  | verify
  /-- More messages, and `more` times that. -/
  | verbose (more : Nat)
  deriving DecidableEq

namespace Request

/-- The argument that asks for something. -/
def argument : Request → String
  | .destination text => text
  | .deflate => "--deflate"
  | .verify => "--verify"
  | .verbose more => String.ofList ('-' :: 'v' :: List.replicate more 'v')

/-- The destination that is asked for. -/
def destination? : Request → Option String
  | .destination text => some text
  | _ => none

/-- How often more messages are asked for. -/
def detail : Request → Nat
  | .verbose more => more + 1
  | _ => 0

/-- Whether something else is asked for than more messages. -/
def isSetting : Request → Bool
  | .verbose _ => false
  | _ => true

end Request

/-- Requests of which none but that for more messages is made twice, with a destination that is a
text and not taken for a flag. -/
structure Proper (requests : List Request) : Prop where
  named : ∀ text, .destination text ∈ requests → text ≠ "" ∧ text.toList.head? ≠ some '-'
  destination : requests.countP (·.destination?.isSome) ≤ 1
  deflate : requests.count .deflate ≤ 1
  verify : requests.count .verify ≤ 1

/-- The settings that requests come to. -/
def Settings.ofRequests (requests : List Request) : Settings where
  destination := (requests.findSome? Request.destination?).getD defaultDestination
  deflates := Request.deflate ∈ requests
  verifies := Request.verify ∈ requests
  verbosity := (requests.map Request.detail).sum

/-! ### Proper requests -/

/-- What is asked for once at most, and last, was not asked for before. -/
theorem Request.notMem_of_count_le_one {request : Request} {done : List Request}
    (h : (done ++ [request]).count request ≤ 1) : request ∉ done := by
  rw [List.count_append, List.count_singleton_self] at h
  exact List.count_eq_zero.1 (by omega)

/-- Who asks for a destination first asks for no other. -/
theorem Request.findSome?_eq_none_of_countP_le_one {text : String} {done : List Request}
    (h : (done ++ [Request.destination text]).countP (·.destination?.isSome) ≤ 1) :
    done.findSome? Request.destination? = none := by
  rw [List.countP_append] at h
  have hzero : done.countP (·.destination?.isSome) = 0 := by simpa [Request.destination?] using h
  rw [List.findSome?_eq_none_iff]
  intro request hmem
  simpa using List.countP_eq_zero.1 hzero request hmem

/-- The first of proper requests are proper. -/
theorem Proper.of_append {first second : List Request} (h : Proper (first ++ second)) :
    Proper first where
  named text hmem := h.named text (List.mem_append_left _ hmem)
  destination := by
    have hcount := h.destination
    rw [List.countP_append] at hcount
    omega
  deflate := by
    have hcount := h.deflate
    rw [List.count_append] at hcount
    omega
  verify := by
    have hcount := h.verify
    rw [List.count_append] at hcount
    omega

/-- The destination that proper requests come to is the one that is asked for. -/
theorem Proper.findSome?_eq_some_iff {requests : List Request} (h : Proper requests)
    {text : String} :
    requests.findSome? Request.destination? = some text ↔ .destination text ∈ requests := by
  constructor
  · intro hfind
    obtain ⟨request, hmem, hrequest⟩ := List.exists_of_findSome?_eq_some hfind
    cases request <;> cases hrequest
    exact hmem
  · intro hmem
    obtain ⟨before, after, rfl⟩ := List.append_of_mem hmem
    rw [List.append_cons] at h
    rw [List.findSome?_append,
      Request.findSome?_eq_none_of_countP_le_one h.of_append.destination]
    rfl

section Reordered

variable {requests others : List Request}
  (hsame : (others.filter Request.isSetting).Perm (requests.filter Request.isSetting))

include hsame

/-- Requests that differ in order and in detail only ask for the same. -/
theorem Request.mem_iff_of_perm {request : Request} (h : request.isSetting = true) :
    request ∈ others ↔ request ∈ requests := by
  have hmem := hsame.mem_iff (a := request)
  simpa [List.mem_filter, h] using hmem

/-- Requests stay proper in another order and with other detail. -/
theorem Proper.of_perm (h : Proper requests) : Proper others where
  named text hmem := h.named text ((Request.mem_iff_of_perm hsame rfl).1 hmem)
  destination := by
    have hcount := hsame.countP_eq (·.destination?.isSome)
    have hsetting : (fun request : Request => request.destination?.isSome && request.isSetting) =
        (·.destination?.isSome) := by
      funext request
      cases request <;> rfl
    rw [List.countP_filter, List.countP_filter, hsetting] at hcount
    rw [hcount]
    exact h.destination
  deflate := by
    have hcount := hsame.count_eq .deflate
    rw [List.count_filter rfl, List.count_filter rfl] at hcount
    rw [hcount]
    exact h.deflate
  verify := by
    have hcount := hsame.count_eq .verify
    rw [List.count_filter rfl, List.count_filter rfl] at hcount
    rw [hcount]
    exact h.verify

/-- The destination that is asked for does not depend on the order. -/
theorem Proper.findSome?_of_perm (h : Proper requests) :
    others.findSome? Request.destination? = requests.findSome? Request.destination? := by
  apply Option.ext
  intro text
  rw [(h.of_perm hsame).findSome?_eq_some_iff, h.findSome?_eq_some_iff,
    Request.mem_iff_of_perm hsame rfl]

end Reordered

/-! ### Reading arguments -/

namespace Arguments

/-- A reading that has taken the arguments of some requests. -/
structure Reached (reading : Reading) (done : List Request) : Prop where
  destination : reading.destination = done.findSome? Request.destination?
  settles : ∀ text, reading.destination = some text → text.isEmpty = false
  deflate : Flag.deflate ∈ reading.flags ↔ Request.deflate ∈ done
  verify : Flag.verify ∈ reading.flags ↔ Request.verify ∈ done
  verbosity : reading.verbosity = (done.map Request.detail).sum

/-- Before the first argument nothing has been asked for. -/
theorem reached_start : Reached Reading.start [] where
  destination := rfl
  settles := nofun
  deflate := by simp [Reading.start]
  verify := by simp [Reading.start]
  verbosity := rfl

variable {reading : Reading} {done : List Request}

/-- Settling a destination that is not empty changes nothing else. -/
theorem Reading.exists_settle
    (h : ∀ text, reading.destination = some text → text.isEmpty = false) :
    ∃ settled, reading.settle = .ok { reading with settled := settled } := by
  rw [settle]
  split
  · exact ⟨reading.settled, rfl⟩
  · split
    · exact ⟨reading.settled, rfl⟩
    · next text htext =>
        rw [h text htext]
        exact ⟨true, rfl⟩

/-- The word for compression is read as its flag. -/
theorem withArgument_deflate (reading : Reading) :
    reading.withArgument "--deflate" = reading.withFlag .deflate := rfl

/-- The word for verification is read as its flag. -/
theorem withArgument_verify (reading : Reading) :
    reading.withArgument "--verify" = reading.withFlag .verify := rfl

/-- A flag that may be given once is taken when it is new. -/
theorem Reading.exists_withFlag_once {flag : Flag} (hflag : flag = .deflate ∨ flag = .verify)
    (hsettles : ∀ text, reading.destination = some text → text.isEmpty = false)
    (hnew : flag ∉ reading.flags) :
    ∃ settled, reading.withFlag flag =
      .ok ⟨reading.flags ++ [flag], reading.verbosity, reading.destination, settled⟩ := by
  obtain ⟨settled, hsettle⟩ := exists_settle hsettles
  refine ⟨settled, ?_⟩
  rw [withFlag, hsettle]
  rcases hflag with rfl | rfl
  · simp only [once, if_neg hnew]
  · simp only [once, if_neg hnew]

/-- Letters that ask for more messages are counted, and nothing else changes. -/
theorem Reading.exists_withLetters_verbose (reading : Reading) (count : Nat)
    (hsettles : ∀ text, reading.destination = some text → text.isEmpty = false) :
    ∃ next, reading.withLetters (List.replicate count 'v') = .ok next ∧
      next.destination = reading.destination ∧ next.verbosity = reading.verbosity + count ∧
      ∀ flag, flag ≠ .verbose → (flag ∈ next.flags ↔ flag ∈ reading.flags) := by
  induction count generalizing reading with
  | zero => exact ⟨reading, rfl, rfl, rfl, fun _ _ => Iff.rfl⟩
  | succ count ih =>
      obtain ⟨settled, hsettle⟩ := exists_settle hsettles
      let louder : Reading :=
        ⟨reading.flags.filter (· ≠ .verbose) ++ [.verbose], reading.verbosity + 1,
          reading.destination, settled⟩
      have hletter : reading.withFlag .verbose = .ok louder := by
        rw [withFlag, hsettle]
      obtain ⟨next, hnext, hdestination, hverbosity, hflags⟩ := ih louder hsettles
      refine ⟨next, ?_, hdestination, ?_, ?_⟩
      · have hflag : Flag.ofLetter? 'v' = some .verbose := Flag.ofLetter?_letter? rfl
        rw [List.replicate_succ, withLetters, hflag]
        simp only [hletter, hnext]
      · rw [hverbosity, Nat.add_comm count, ← Nat.add_assoc]
      · intro flag hflag
        rw [hflags flag hflag]
        simp [louder, hflag]

/-- An argument that does not start with a dash is a destination. -/
theorem Reading.withArgument_destination {text : String} (h : text.toList.head? ≠ some '-')
    (hnone : reading.destination = none) :
    reading.withArgument text = .ok { reading with destination := some text } := by
  have hdestination : reading.withDestination text =
      .ok { reading with destination := some text } := by
    rw [withDestination, hnone]
  rw [withArgument]
  split
  · next htext => rw [htext] at h; exact absurd rfl h
  · next htext => rw [htext] at h; exact absurd rfl h
  · exact hdestination

/-- A group of letters for more messages is read letter by letter. -/
theorem Reading.withArgument_verbose (reading : Reading) (more : Nat) :
    reading.withArgument (Request.verbose more).argument =
      reading.withLetters (List.replicate (more + 1) 'v') := by
  rw [withArgument, Request.argument, String.toList_ofList]
  rfl

/-- A reading takes the next argument, as long as nothing is asked for twice. -/
theorem Reached.step {request : Request} (h : Reached reading done)
    (hproper : Proper (done ++ [request])) :
    ∃ next, reading.withArgument request.argument = .ok next ∧
      Reached next (done ++ [request]) := by
  have hfind (rest : List Request) : (done ++ rest).findSome? Request.destination? =
      reading.destination.or (rest.findSome? Request.destination?) := by
    rw [List.findSome?_append, h.destination]
  have hsum (request : Request) : ((done ++ [request]).map Request.detail).sum =
      reading.verbosity + request.detail := by
    rw [List.map_append, List.sum_append, h.verbosity]
    rfl
  cases request with
  | destination text =>
      obtain ⟨hnonempty, hdash⟩ := hproper.named text (by simp)
      have hnone : reading.destination = none :=
        h.destination.trans (Request.findSome?_eq_none_of_countP_le_one hproper.destination)
      refine ⟨_, Reading.withArgument_destination hdash hnone, ?_, ?_, ?_, ?_, ?_⟩
      · rw [hfind, hnone]
        rfl
      · rintro _ ⟨rfl⟩
        exact Bool.eq_false_iff.2 fun hempty => hnonempty (String.isEmpty_iff.1 hempty)
      · simpa using h.deflate
      · simpa using h.verify
      · rw [hsum]
        rfl
  | deflate =>
      have hnew := Request.notMem_of_count_le_one hproper.deflate
      obtain ⟨settled, htaken⟩ := Reading.exists_withFlag_once (.inl rfl) h.settles
        (h.deflate.not.2 hnew)
      refine ⟨_, (withArgument_deflate reading).trans htaken, ?_, h.settles, ?_, ?_, ?_⟩
      · rw [hfind]
        simp [Request.destination?]
      · simp
      · simpa using h.verify
      · rw [hsum]
        rfl
  | verify =>
      have hnew := Request.notMem_of_count_le_one hproper.verify
      obtain ⟨settled, htaken⟩ := Reading.exists_withFlag_once (.inr rfl) h.settles
        (h.verify.not.2 hnew)
      refine ⟨_, (withArgument_verify reading).trans htaken, ?_, h.settles, ?_, ?_, ?_⟩
      · rw [hfind]
        simp [Request.destination?]
      · simpa using h.deflate
      · simp
      · rw [hsum]
        rfl
  | verbose more =>
      obtain ⟨next, hnext, hdestination, hverbosity, hflags⟩ :=
        reading.exists_withLetters_verbose (more + 1) h.settles
      refine ⟨next, (reading.withArgument_verbose more).trans hnext, ?_, ?_, ?_, ?_, ?_⟩
      · rw [hfind, hdestination]
        simp [Request.destination?]
      · rw [hdestination]
        exact h.settles
      · simpa [hflags .deflate (by decide)] using h.deflate
      · simpa [hflags .verify (by decide)] using h.verify
      · rw [hverbosity, hsum]
        rfl

/-- No request is written as two dashes alone. -/
theorem argument_ne_dashes {request : Request} (hproper : Proper (done ++ [request])) :
    request.argument ≠ "--" := by
  cases request with
  | destination text =>
      obtain ⟨-, hdash⟩ := hproper.named text (by simp)
      rintro hsame
      rw [Request.argument] at hsame
      rw [hsame] at hdash
      exact hdash rfl
  | deflate => decide
  | verify => decide
  | verbose more =>
      intro hsame
      have hletters := congrArg String.toList hsame
      rw [Request.argument, String.toList_ofList] at hletters
      cases hletters

/-- A reading takes the arguments of proper requests, one after the other. -/
theorem Reached.run {requests : List Request} (h : Reached reading done)
    (hproper : Proper (done ++ requests)) :
    ∃ final, reading.withArguments (requests.map Request.argument) = .ok final ∧
      Reached final (done ++ requests) := by
  induction requests generalizing reading done with
  | nil => exact ⟨reading, rfl, by rwa [List.append_nil]⟩
  | cons request requests ih =>
      rw [List.append_cons] at hproper ⊢
      obtain ⟨next, hnext, hreached⟩ := h.step hproper.of_append
      obtain ⟨final, hfinal, hall⟩ := ih hreached hproper
      refine ⟨final, ?_, hall⟩
      rw [List.map_cons, Reading.withArguments, if_neg (argument_ne_dashes hproper.of_append)]
      simp only [hnext, hfinal]

end Arguments

open Arguments in
/-- The settings that arguments come to. -/
theorem settings_of_proper {requests : List Request} (hproper : Proper requests) :
    Settings.ofArguments (requests.map Request.argument) = .ok (.ofRequests requests) := by
  obtain ⟨final, hfinal, hreached⟩ := reached_start.run hproper
  obtain ⟨settled, hsettle⟩ := Reading.exists_settle hreached.settles
  rw [Settings.ofArguments, hfinal]
  simp only [hsettle, Reading.settings, Settings.ofRequests, hreached.destination,
    hreached.deflate, hreached.verify, hreached.verbosity]
  rfl

/-! ### Doing what is asked for -/

section Doing

variable {σ : Type} {made : Generated σ} {destination : String} {verifies : Bool}
  {outcome other : Outcome σ}

/-- How the work ends, once fixtures have been made or not. -/
inductive Concludes (made : Generated σ) (destination : String) (verifies : Bool) : Outcome σ → Prop
  | notMade (e : FixtureError) (errors : String) (hresult : made.result = .error e) :
    Concludes made destination verifies ⟨1, "", errors, made.files, made.state⟩
  | notVerified (report : Report) (e : FixtureError) (errors : String)
      (hresult : made.result = .ok report) (hverifies : verifies = true)
      (hverify : verify made.files destination = .error e) :
    Concludes made destination verifies ⟨1, "", errors, made.files, made.state⟩
  | done (report : Report) (errors : String) (hresult : made.result = .ok report)
      (hverify : verifies = true → ∃ checked, verify made.files destination = .ok checked) :
    Concludes made destination verifies ⟨0, report.text, errors, made.files, made.state⟩

/-- The work that settings ask for ends in one of these ways. -/
theorem Settings.concludes_run (settings : Settings) (generator : Generator σ) (state : σ)
    (fs : FileSystem) (environment : Environment) (time : String) :
    Concludes (generate generator state fs settings.destination settings.compression)
      settings.destination settings.verifies
      (settings.run generator state fs environment time) := by
  rw [Settings.run]
  generalize hmade : generate generator state fs settings.destination settings.compression = made
  cases hresult : made.result with
  | error e => exact .notMade e _ hresult
  | ok report =>
      cases hverifies : settings.verifies with
      | false => exact .done report _ hresult nofun
      | true =>
          cases hverify : verify made.files settings.destination with
          | error e => exact .notVerified report e _ hresult rfl hverify
          | ok checked => exact .done report _ hresult fun _ => ⟨checked, hverify⟩

/-- Whether the work has been done is told by the status. -/
theorem Concludes.status_eq_zero_iff (h : Concludes made destination verifies outcome) :
    outcome.status = 0 ↔ ∃ report, made.result = .ok report ∧
      (verifies = true → ∃ checked, verify made.files destination = .ok checked) := by
  cases h with
  | notMade e errors hresult => simp [hresult]
  | notVerified report e errors hresult hverifies hverify => simp [hverifies, hverify]
  | done report errors hresult hverify => simpa [hresult] using hverify

/-- Whatever is said about them, the files are those that the generation left: verifying changes
nothing. -/
theorem Concludes.files_eq (h : Concludes made destination verifies outcome) :
    outcome.files = made.files := by
  cases h <;> rfl

/-- Work that has been done prints the report on what has been made. -/
theorem Concludes.exists_report (h : Concludes made destination verifies outcome)
    (hstatus : outcome.status = 0) :
    ∃ report, made.result = .ok report ∧ outcome.output = report.text := by
  cases h with
  | notMade => cases hstatus
  | notVerified => cases hstatus
  | done report errors hresult => exact ⟨report, hresult, rfl⟩

/-- Work that has not been done prints nothing. -/
theorem Concludes.of_status_ne_zero (h : Concludes made destination verifies outcome)
    (hstatus : outcome.status ≠ 0) : outcome.status = 1 ∧ outcome.output = "" := by
  cases h with
  | notMade => exact ⟨rfl, rfl⟩
  | notVerified => exact ⟨rfl, rfl⟩
  | done => exact absurd rfl hstatus

/-- Two endings of the same work differ in messages only. -/
theorem Concludes.seen_eq (h : Concludes made destination verifies outcome)
    (hother : Concludes made destination verifies other) :
    other.files = outcome.files ∧ other.status = outcome.status ∧
      other.output = outcome.output := by
  have hsame : other.status = 0 ↔ outcome.status = 0 :=
    hother.status_eq_zero_iff.trans h.status_eq_zero_iff.symm
  refine ⟨hother.files_eq.trans h.files_eq.symm, ?_⟩
  by_cases hstatus : outcome.status = 0
  · obtain ⟨report, hresult, houtput⟩ := h.exists_report hstatus
    obtain ⟨again, hagain, hotherOutput⟩ := hother.exists_report (hsame.2 hstatus)
    obtain rfl : report = again := Except.ok.inj (hresult.symm.trans hagain)
    exact ⟨(hsame.2 hstatus).trans hstatus.symm, hotherOutput.trans houtput.symm⟩
  · obtain ⟨hone, hempty⟩ := h.of_status_ne_zero hstatus
    obtain ⟨hotherOne, hotherEmpty⟩ := hother.of_status_ne_zero (hsame.not.2 hstatus)
    exact ⟨hotherOne.trans hone.symm, hotherEmpty.trans hempty.symm⟩

/-- A run with proper requests ends in one of these ways. -/
theorem concludes_run {requests : List Request} (hproper : Proper requests)
    (generator : Generator σ) (state : σ) (fs : FileSystem) (environment : Environment)
    (time : String) :
    let destination := (requests.findSome? Request.destination?).getD defaultDestination
    let compression := if Request.deflate ∈ requests then Compression.deflated else .stored
    Concludes (generate generator state fs destination compression) destination
      (Request.verify ∈ requests)
      (run generator state fs environment time (requests.map Request.argument)) := by
  intro destination compression
  have hconcludes :=
    (Settings.ofRequests requests).concludes_run generator state fs environment time
  simp only [Settings.compression, Settings.ofRequests, decide_eq_true_eq] at hconcludes
  rw [run, settings_of_proper hproper]
  exact hconcludes

end Doing

/-- **The command line runs the pipeline.** Let a destination be asked for once at most, and so
compression and verification, in any order and between any number of requests for more messages.
The files afterwards are those that making the fixtures leaves, in the destination asked for or the
usual one, compressed exactly if asked to, whether they are verified or not. The status is 0 exactly
if they could be made and, if asked to, verified; the output is then the report on what has been
made. Otherwise the status is 1, and the output is empty. Neither the order nor the messages asked
for make a difference to any of these. -/
theorem run_pipeline {requests : List Request} (hproper : Proper requests) {σ : Type}
    (generator : Generator σ) (state : σ) (fs : FileSystem) (environment : Environment)
    (time : String) :
    let destination := (requests.findSome? Request.destination?).getD "assets"
    let compression := if Request.deflate ∈ requests then Compression.deflated else .stored
    let made := generate generator state fs destination compression
    let outcome := run generator state fs environment time (requests.map Request.argument)
    outcome.files = made.files ∧
      (outcome.status = 0 ↔ ∃ report, made.result = .ok report ∧
        (Request.verify ∈ requests → ∃ checked, verify made.files destination = .ok checked)) ∧
      (outcome.status = 0 → ∃ report, made.result = .ok report ∧ outcome.output = report.text) ∧
      (outcome.status ≠ 0 → outcome.status = 1 ∧ outcome.output = "") ∧
      ∀ (others : List Request) (environment' : Environment) (time' : String),
        (others.filter Request.isSetting).Perm (requests.filter Request.isSetting) →
        let other := run generator state fs environment' time' (others.map Request.argument)
        other.files = outcome.files ∧ other.status = outcome.status ∧
          other.output = outcome.output := by
  intro destination compression made outcome
  have hconcludes : Concludes made destination (Request.verify ∈ requests) outcome :=
    concludes_run hproper generator state fs environment time
  refine ⟨hconcludes.files_eq, ?_, hconcludes.exists_report, hconcludes.of_status_ne_zero, ?_⟩
  · simpa only [decide_eq_true_eq] using hconcludes.status_eq_zero_iff
  · intro others environment' time' hsame other
    have hother := concludes_run (hproper.of_perm hsame) generator state fs environment' time'
    have hdeflate : Request.deflate ∈ others ↔ Request.deflate ∈ requests :=
      Request.mem_iff_of_perm hsame rfl
    have hverify : Request.verify ∈ others ↔ Request.verify ∈ requests :=
      Request.mem_iff_of_perm hsame rfl
    simp only [hproper.findSome?_of_perm hsame, hdeflate, hverify] at hother
    exact hconcludes.seen_eq hother

/-! ### Flags around a destination -/

/-- Requests with the destination between flags. -/
def scatteredRequests : List Request :=
  [.verbose 1, .verify, .destination "out/", .verbose 0, .deflate]

/-- The same in another order, with fewer messages. -/
def gatheredRequests : List Request :=
  [.deflate, .verify, .destination "out/"]

/-- Flags around a destination and flags in front of it lead to the same files and the same status,
whatever is said on the way. -/
theorem run_pipeline_scattered :
    scatteredRequests.map Request.argument = ["-vv", "--verify", "out/", "-v", "--deflate"] ∧
      gatheredRequests.map Request.argument = ["--deflate", "--verify", "out/"] ∧
      Proper scatteredRequests ∧
      let outcome := run Generator.constant 80 staleFiles ⟨none, none, none⟩ "noon"
        (scatteredRequests.map Request.argument)
      let other := run Generator.constant 80 staleFiles ⟨some "trace", none, none⟩ "midnight"
        (gatheredRequests.map Request.argument)
      outcome.status = 0 ∧ outcome.output = ((constantRun 80 .deflated).report "out/").text ∧
        other.files = outcome.files ∧ other.status = 0 := by
  have hproper : Proper scatteredRequests := by
    refine ⟨?_, by decide, by decide, by decide⟩
    intro text hmem
    obtain rfl : text = "out/" := by simpa [scatteredRequests] using hmem
    decide
  have hsame : (gatheredRequests.filter Request.isSetting).Perm
      (scatteredRequests.filter Request.isSetting) := by decide
  have hdirectory : ensureDirectory staleFiles "out/" = (.ok (), staleFiles) := rfl
  obtain ⟨location, hready⟩ := exists_ready_of_plain hdirectory plain_staleFiles
  have hgenerate := generate_of_ready hdirectory hready (constantRun 80 .deflated)
  obtain ⟨hresult, hfiles⟩ := Prod.mk.inj hgenerate
  have hverify := (hready.holds (constantRun 80 .deflated)).verify
  rw [← hfiles] at hverify
  obtain ⟨-, hstatus, hreport, -, hothers⟩ := run_pipeline hproper Generator.constant 80 staleFiles
    ⟨none, none, none⟩ "noon"
  have hzero := hstatus.2 ⟨_, hresult, fun _ => ⟨_, hverify⟩⟩
  obtain ⟨report, hagain, houtput⟩ := hreport hzero
  obtain rfl := Except.ok.inj (hagain.symm.trans hresult)
  obtain ⟨hotherFiles, hotherStatus, -⟩ :=
    hothers gatheredRequests ⟨some "trace", none, none⟩ "midnight" hsame
  exact ⟨rfl, rfl, hproper, hzero, houtput, hotherFiles, hotherStatus.trans hzero⟩

end FixtureKit
