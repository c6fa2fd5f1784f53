import AccessPoint.Log.Console
import AccessPoint.Proofs.Log.Level
import Mathlib.Data.List.Induction

/-!
# The first setup wins

Logging is installed on a console once. What a request comes to depends on its level and on whether
logging is installed, and these are three cases, with one lemma for each:

* no level is denoted: the request is refused for it (`run_of_not_names`);
* a level is denoted, and logging is installed: the request is refused for that
  (`run_of_installed`);
* a level is denoted, and logging is not installed: the request is granted (`run_of_names`).

Only the third changes the console. So once logging is installed nothing changes any more
(`console_run_of_installed` for a request, `console_runAll_of_installed` for a run), and before a
level is denoted nothing changes either (`console_runAll_of_not_names`).

In a run of requests on a fresh console the first one whose text denotes a level is therefore the
only one that is granted, and all that is ever shown is its line (`first_setup_wins`). The induction
is from the end of the run (`console_runAll_cases`): the console that the requests so far have left
is fresh, or holds what the first request for a level has put there, and a further request leaves
this as it is. An induction from the front would have to say the same of every console that a run
may start on.

The answer at a place is the one that the request gets on the console which the requests in front of
it have left (`getElem?_runAll`), so the three cases settle it as well.
-/

namespace AccessPoint.Log.Request

variable {r q : Request} {rs ts earlier later : List Request} {l : Level} {c : Config} {e : Error}
  {console : Console}

/-- The text of the request denotes the level, spaces around it aside. -/
def Names (r : Request) (l : Level) : Prop := Level.Denotes (Text.trimSpace r.level) l

/-- What the request asks for if its level is `l`. -/
def configAt (r : Request) (l : Level) : Config := ⟨l, r.json, r.fileInfo, r.appName⟩

/-- What the request shows if it is granted at the level `l`: a line of information, unless the
level is for warnings or errors only. The line is placed if the request asks for it. -/
def announcement (r : Request) (l : Level) : List Line :=
  if l = .info ∨ l = .debug ∨ l = .trace then
    [⟨.info, "Logging initialized for " ++ r.appName, r.fileInfo⟩]
  else []

theorem length_announcement_le (r : Request) (l : Level) : (r.announcement l).length ≤ 1 := by
  rw [announcement]
  split
  · exact Nat.le_refl 1
  · exact Nat.zero_le 1

theorem shows_info_iff : l.shows .info ↔ l = .info ∨ l = .debug ∨ l = .trace := by
  cases l <;> decide

/-- A request whose text denotes a level asks for that level, and for the rest as it says. -/
theorem config_eq_ok (h : r.Names l) : r.config = .ok (r.configAt l) := by
  rw [config, Level.parse_eq_ok_iff.2 h]
  rfl

/-- The error names the text of the request as it was given. -/
theorem config_eq_error (h : ∀ l, ¬r.Names l) :
    r.config = .error (.config (.level r.level)) := by
  rw [config, Level.parse_eq_error_iff.2 ⟨h, rfl⟩]
  rfl

/-! ### One request -/

theorem run_of_config_eq_ok (h : r.config = .ok c) : r.run console = console.install c := by
  delta run
  rw [h]

theorem run_of_config_eq_error (h : r.config = .error e) : r.run console = (.error e, console) := by
  delta run
  rw [h]

/-- A request whose text denotes no level is refused for it, and changes nothing. -/
theorem run_of_not_names (h : ∀ l, ¬r.Names l) :
    r.run console = (.error (.config (.level r.level)), console) :=
  run_of_config_eq_error (config_eq_error h)

/-- Where logging is installed, a request for any level is refused, and changes nothing. -/
theorem run_of_installed (hr : r.Names l) (hc : console.installed = some c) :
    r.run console = (.error (.config .installed), console) := by
  rw [run_of_config_eq_ok (config_eq_ok hr), Console.install, hc]

/-- Where it is not, a request for a level is granted. -/
theorem run_of_names (hr : r.Names l) (hc : console.installed = none) :
    r.run console = (.ok (), ⟨some (r.configAt l), console.lines ++ r.announcement l⟩) := by
  rw [run_of_config_eq_ok (config_eq_ok hr)]
  simp only [Console.install, hc, announcement, shows_info_iff, configAt]

/-- Where logging is installed, no request changes anything. -/
theorem console_run_of_installed (hc : console.installed = some c) (r : Request) :
    (r.run console).2 = console := by
  by_cases h : ∃ l, r.Names l
  · obtain ⟨l, hl⟩ := h
    rw [run_of_installed hl hc]
  · rw [run_of_not_names (not_exists.1 h)]

/-- Behind a request for a level, logging is installed. -/
theorem exists_installed_run (hr : r.Names l) :
    ∃ c, (r.run console).2.installed = some c := by
  cases hc : console.installed with
  | none =>
    rw [run_of_names hr hc]
    exact ⟨_, rfl⟩
  | some c =>
    rw [run_of_installed hr hc]
    exact ⟨c, hc⟩

/-! ### Runs of requests -/

theorem runAll_cons (r : Request) (rs : List Request) (console : Console) :
    runAll (r :: rs) console =
      ((r.run console).1 :: (runAll rs (r.run console).2).1, (runAll rs (r.run console).2).2) := by
  rw [runAll]

/-- A run in two parts: the second begins on the console that the first has left. -/
theorem runAll_append (rs ts : List Request) (console : Console) :
    runAll (rs ++ ts) console =
      ((runAll rs console).1 ++ (runAll ts (runAll rs console).2).1,
        (runAll ts (runAll rs console).2).2) := by
  induction rs generalizing console with
  | nil => rfl
  | cons r rs ih => rw [List.cons_append, runAll_cons, ih, runAll_cons, List.cons_append]

theorem length_runAll (rs : List Request) (console : Console) :
    (runAll rs console).1.length = rs.length := by
  induction rs generalizing console with
  | nil => rfl
  | cons r rs ih => rw [runAll_cons, List.length_cons, ih, List.length_cons]

/-- The answer to a request is given on the console that the requests in front of it have left. -/
theorem getElem?_runAll (earlier later : List Request) (r : Request) (console : Console) :
    (runAll (earlier ++ r :: later) console).1[earlier.length]? =
      some (r.run (runAll earlier console).2).1 := by
  rw [runAll_append, ← length_runAll earlier console,
    List.getElem?_append_right (Nat.le_refl _), Nat.sub_self, runAll_cons]
  rfl

theorem console_runAll_concat (earlier : List Request) (r : Request) (console : Console) :
    (runAll (earlier ++ [r]) console).2 = (r.run (runAll earlier console).2).2 := by
  rw [runAll_append, runAll_cons, runAll]

/-- Requests without a level leave the console as it is. -/
theorem console_runAll_of_not_names (h : ∀ r ∈ rs, ∀ l, ¬r.Names l) (console : Console) :
    (runAll rs console).2 = console := by
  induction rs with
  | nil => rfl
  | cons r rs ih =>
    obtain ⟨hr, hrs⟩ := List.forall_mem_cons.1 h
    rw [runAll_cons, run_of_not_names hr]
    exact ih hrs

/-- Once logging is installed, it stays as it is. -/
theorem console_runAll_of_installed (hc : console.installed = some c) (rs : List Request) :
    (runAll rs console).2 = console := by
  induction rs with
  | nil => rfl
  | cons r rs ih =>
    rw [runAll_cons, console_run_of_installed hc]
    exact ih

/-- A run with a request for a level leaves logging installed. -/
theorem exists_installed_runAll (hq : q ∈ rs) (hl : q.Names l) (console : Console) :
    ∃ c, (runAll rs console).2.installed = some c := by
  obtain ⟨earlier, later, rfl⟩ := List.append_of_mem hq
  obtain ⟨c, hc⟩ : ∃ c, (q.run (runAll earlier console).2).2.installed = some c :=
    exists_installed_run hl
  refine ⟨c, ?_⟩
  rw [runAll_append, runAll_cons, console_runAll_of_installed hc]
  exact hc

/-- `r` is the first request for a level, behind those in `earlier`, and it is for the level `l`. -/
structure IsFirst (earlier : List Request) (r : Request) (l : Level) : Prop where
  none_earlier : ∀ q ∈ earlier, ∀ m, ¬q.Names m
  names : r.Names l

/-- The first request for a level is carried out on a fresh console. -/
theorem IsFirst.run_eq (h : IsFirst earlier r l) :
    r.run (runAll earlier {}).2 = (.ok (), ⟨some (r.configAt l), r.announcement l⟩) := by
  rw [console_runAll_of_not_names h.none_earlier, run_of_names h.names rfl]
  rfl

/-- A run leaves a fresh console fresh, or with what the first request for a level has put there. -/
theorem console_runAll_cases (rs : List Request) :
    (∀ r ∈ rs, ∀ l, ¬r.Names l) ∧ (runAll rs {}).2 = {} ∨
      ∃ earlier r later l, rs = earlier ++ r :: later ∧ IsFirst earlier r l ∧
        (runAll rs {}).2 = ⟨some (r.configAt l), r.announcement l⟩ := by
  induction rs using List.reverseRecOn with
  | nil => exact .inl ⟨nofun, rfl⟩
  | append_singleton rs r ih =>
    rw [console_runAll_concat]
    rcases ih with ⟨hnone, hfresh⟩ | ⟨earlier, q, later, l, rfl, hfirst, hconsole⟩
    · by_cases h : ∃ l, r.Names l
      · obtain ⟨l, hl⟩ := h
        have hfirst : IsFirst rs r l := ⟨hnone, hl⟩
        exact .inr ⟨rs, r, [], l, rfl, hfirst, by rw [hfirst.run_eq]⟩
      · have hr := not_exists.1 h
        refine .inl ⟨List.forall_mem_append.2 ⟨hnone, List.forall_mem_singleton.2 hr⟩, ?_⟩
        rw [hfresh, run_of_not_names hr]
    · refine .inr ⟨earlier, q, later ++ [r], l, by simp, hfirst, ?_⟩
      rw [hconsole, console_run_of_installed rfl]

/-- **The first successful setup wins for good.** In a run of requests on a fresh console, one whose
text denotes no level is refused for it, the first one whose text denotes a level is granted, and
every later one is refused because logging is installed. A request that is refused leaves the
console as it was, so that what is shown in the end is what the one that was granted has shown: one
line, or none if its level is for warnings or errors only. -/
theorem first_setup_wins (rs : List Request) :
    (runAll rs {}).1.length = rs.length ∧
    (∀ earlier r later, rs = earlier ++ r :: later →
      let answer := (runAll rs {}).1[earlier.length]?
      let before := (runAll earlier {}).2
      let after := (runAll (earlier ++ [r]) {}).2
      ((∀ l, ¬r.Names l) →
        answer = some (.error (.config (.level r.level))) ∧ after = before) ∧
      (∀ l, IsFirst earlier r l →
        answer = some (.ok ()) ∧ before = {} ∧ after = ⟨some (r.configAt l), r.announcement l⟩ ∧
          (runAll rs {}).2 = after) ∧
      (∀ l, r.Names l → (∃ q ∈ earlier, ∃ m, q.Names m) →
        answer = some (.error (.config .installed)) ∧ after = before)) ∧
    ((∀ r ∈ rs, ∀ l, ¬r.Names l) → (runAll rs {}).2 = {}) ∧
    (runAll rs {}).2.lines.length ≤ 1 := by
  refine ⟨length_runAll rs {}, fun earlier r later hrs ↦ ?_,
    fun h ↦ console_runAll_of_not_names h {}, ?_⟩
  · subst hrs
    intro answer before after
    have hanswer : answer = some (r.run before).1 := getElem?_runAll earlier later r {}
    have hafter : after = (r.run before).2 := console_runAll_concat earlier r {}
    rw [hanswer, hafter]
    refine ⟨fun h ↦ ?_, fun l h ↦ ?_, fun l hl hearlier ↦ ?_⟩
    · rw [run_of_not_names h]
      exact ⟨rfl, rfl⟩
    · have hlast : (runAll (earlier ++ r :: later) {}).2 = (r.run before).2 := by
        rw [runAll_append, runAll_cons]
        exact console_runAll_of_installed (by rw [h.run_eq]) later
      rw [hlast, h.run_eq]
      exact ⟨rfl, console_runAll_of_not_names h.none_earlier {}, rfl, rfl⟩
    · obtain ⟨q, hq, m, hm⟩ := hearlier
      obtain ⟨c, hc⟩ := exists_installed_runAll hq hm {}
      rw [run_of_installed hl hc]
      exact ⟨rfl, rfl⟩
  · rcases console_runAll_cases rs with ⟨-, hfresh⟩ | ⟨-, r, -, l, -, -, hconsole⟩
    · rw [hfresh]
      exact Nat.zero_le 1
    · rw [hconsole]
      exact length_announcement_le r l

/-- A text that denotes no level, in front of and behind a numeral for `INFO` between spaces, and a
name that comes too late. -/
theorem first_setup_wins_behind_refusal :
    let loud : Request := { level := "loud", appName := "a" }
    let info : Request := { level := "\u00A0+03 ", appName := "b", fileInfo := true }
    let trace : Request := { level := "Trace", appName := "c", json := true }
    let run := runAll [loud, info, loud, trace] {}
    (∀ l, ¬loud.Names l) ∧ IsFirst [loud] info .info ∧ trace.Names .trace ∧
      run.1[0]? = some (.error (.config (.level "loud"))) ∧ run.1[1]? = some (.ok ()) ∧
      run.1[2]? = some (.error (.config (.level "loud"))) ∧
      run.1[3]? = some (.error (.config .installed)) ∧
      run.2 = ⟨some ⟨.info, false, true, "b"⟩, [⟨.info, "Logging initialized for b", true⟩]⟩ := by
  intro loud info trace run
  have hloud : ∀ l, ¬loud.Names l := by
    intro l hl
    have hread : Level.ofText? (Text.trimSpace loud.level) = none := by decide +kernel
    rw [Level.ofText?_eq_some_iff.2 hl] at hread
    cases hread
  have hinfo : info.Names .info := Level.ofText?_eq_some_iff.1 (by decide +kernel)
  have htrace : trace.Names .trace := Level.ofText?_eq_some_iff.1 (by decide +kernel)
  have hfirst : IsFirst [loud] info .info := ⟨List.forall_mem_singleton.2 hloud, hinfo⟩
  obtain ⟨-, hrun, -, -⟩ := first_setup_wins [loud, info, loud, trace]
  obtain ⟨hgranted, -, hafter, hlast⟩ := (hrun [loud] info [loud, trace] rfl).2.1 .info hfirst
  refine ⟨hloud, hfirst, htrace, ((hrun [] loud _ rfl).1 hloud).1, hgranted,
    ((hrun [loud, info] loud _ rfl).1 hloud).1, ?_, hlast.trans hafter⟩
  have hearlier : ∃ q ∈ [loud, info, loud], ∃ m, q.Names m := ⟨info, by simp, .info, hinfo⟩
  exact ((hrun [loud, info, loud] trace [] rfl).2.2 .trace htrace hearlier).1

end AccessPoint.Log.Request

