/-
# What becomes of settings

Settings may be saved, their file may be written by anyone, and the variable of the environment may
be set and unset, in any order.  Whatever was done, settings that were saved last are loaded as
they were saved; and the database to use is found in one order, from what is given with a command
to what everybody uses.
-/
import PaymentPlans.Machine.Simulated
import PaymentPlans.Proofs.Machine.Files
import PaymentPlans.Proofs.Settings.Written
import PaymentPlans.Settings.Access

namespace PaymentPlans

namespace Machine

/-- Sets or unsets a variable of the environment. -/
def setVariable (m : Machine) (name : String) (value : Option String) : Machine :=
  let others := m.environment.filter fun (other, _) => other != name
  { m with environment := others ++ value.elim [] fun value => [(name, value)] }

/-- A variable has the value that it was given. -/
lemma lookup_setVariable (m : Machine) (name : String) (value : Option String) :
    (m.setVariable name value).environment.lookup name = value := by
  have hothers : (m.environment.filter fun (other, _) => other != name).lookup name = none := by
    rw [List.lookup_eq_none_iff]
    rintro ⟨other, _⟩ hentry
    have hne : (other != name) = true := (List.mem_filter.1 hentry).2
    rwa [bne_comm] at hne
  rw [setVariable, List.lookup_append, hothers, Option.none_or]
  cases value with
  | none => rfl
  | some value => exact List.lookup_cons_self

/-- The other variables keep their values. -/
lemma lookup_setVariable_of_ne (m : Machine) {name other : String} (value : Option String)
    (h : other ≠ name) :
    (m.setVariable name value).environment.lookup other = m.environment.lookup other := by
  have hothers : ∀ environment : List (String × String),
      (environment.filter fun (other, _) => other != name).lookup other =
        environment.lookup other := by
    intro environment
    induction environment with
    | nil => rfl
    | cons entry environment ih =>
      obtain ⟨first, found⟩ := entry
      by_cases hfirst : first = name
      · have hother : (other == first) = false := by rw [hfirst]; exact beq_eq_false_iff_ne.2 h
        rw [List.filter_cons_of_neg (by simpa using hfirst), ih, List.lookup_cons, hother]
      · rw [List.filter_cons_of_pos (by simpa using hfirst), List.lookup_cons, List.lookup_cons, ih]
  have hset : (value.elim [] fun value => [(name, value)]).lookup other = none := by
    cases value with
    | none => rfl
    | some value => rw [Option.elim_some, List.lookup_cons, beq_eq_false_iff_ne.2 h]; rfl
  rw [setVariable, List.lookup_append, hothers, hset, Option.or_none]

/-! ## Answers -/

variable {m : Machine} {place : String} {path : Path} {tree : FileTree}

lemma answer_makeDirectory (h : m.tree.makeDirectories? m.directory place = some tree) :
    m.answer (.makeDirectory place) = (true, { m with tree }) :=
  congrArg m.change h

lemma answer_writeFile {text : String} (hresolve : m.tree.resolve? m.directory place = some path)
    (hwrite : m.tree.write? path text = some tree) :
    m.answer (.writeFile place text) = (true, { m with tree }) := by
  simp only [answer, resolve?, hresolve, Option.bind_eq_bind, Option.bind_some, hwrite, change]

lemma answer_makePrivate (hresolve : m.tree.resolve? m.directory place = some path)
    (hprivate : m.tree.makePrivate? path = some tree) :
    m.answer (.makePrivate place) = (true, { m with tree }) := by
  simp only [answer, resolve?, hresolve, Option.bind_eq_bind, Option.bind_some, hprivate, change]

end Machine

namespace Settings

open Machine (readFile? makeDirectory writeFile)

/-! ## Steps -/

/-- Writes any text to the file of the settings, in its directory. -/
def overwrite (text : String) : MachineProgram Bool := do
  let (directory, path) ← locate
  let _ ← makeDirectory directory
  writeFile path text

/-- What can be done to the settings and to the environment. -/
inductive Step where
  /-- Someone writes to the file of the settings. -/
  | write (text : String)
  /-- The variable for the address of the database is set or unset. -/
  | setUrl (url : Option String)
  /-- Settings are saved. -/
  | save (settings : Settings) (fits : settings.Fits)

/-- The machine after a step. -/
def Step.run : Step → Machine → Machine
  | write text, m => (m.run (overwrite text)).state
  | setUrl url, m => m.setVariable Database.Config.urlVariable url
  | save settings _, m => (m.run (Settings.save settings)).state

/-- The machine after some steps. -/
def after (m : Machine) (steps : List Step) : Machine := steps.foldl (fun m step => step.run m) m

/-- Settings can be saved on a machine. -/
def CanSave (m : Machine) : Prop := ∃ settings, (m.run (save settings)).value = .ok ()

/-- The directory and the file of the settings on a machine. -/
def place (m : Machine) : String × String :=
  let configHome := m.environment.lookup directoryVariable
  let home := m.environment.lookup homeVariable
  (directory configHome home, path configHome home)

/-- The text of the file of the settings, if there is one. -/
def fileText? (m : Machine) : Option String := (m.answer (.readFile (place m).2)).1

/-! ## Runs -/

lemma run_overwrite (m : Machine) (text : String) :
    m.run (overwrite text) =
      let made := m.answer (.makeDirectory (place m).1)
      let written := made.2.answer (.writeFile (place m).2 text)
      ⟨written.1, written.2, []⟩ :=
  rfl

lemma run_save (m : Machine) (settings : Settings) :
    m.run (save settings) =
      let made := m.answer (.makeDirectory (place m).1)
      if made.1 then
        let written := made.2.answer (.writeFile (place m).2 settings.text)
        if written.1 then
          let closed := written.2.answer (.makePrivate (place m).2)
          ⟨if closed.1 then .ok () else .error (.notPrivate (place m).2), closed.2, []⟩
        else ⟨.error (.notWritten (place m).2), written.2, []⟩
      else ⟨.error (.noDirectory (place m).1), made.2, []⟩ := by
  have hsave : m.run (save settings) =
      (m.answer (.makeDirectory (place m).1)).2.run
        (if (m.answer (.makeDirectory (place m).1)).1 then
          .call (.writeFile (place m).2 settings.text) fun written =>
            if written then .call (.makePrivate (place m).2) fun closed =>
              if closed then .done (.ok ()) else .done (.error (.notPrivate (place m).2))
            else .done (.error (.notWritten (place m).2))
        else .done (.error (.noDirectory (place m).1))) := rfl
  rw [hsave]
  dsimp only
  split
  · rw [Machine.run, Program.run]
    split
    · rw [Program.run]
      split <;> rfl
    · rfl
  · rfl

lemma run_load (m : Machine) :
    m.run load = ⟨match fileText? m with
      | none => .error (.notRead (place m).2)
      | some text => match read text with
        | none => .error .misshapen
        | some settings => .ok settings, m, []⟩ := by
  have hload : m.run load = m.run (match fileText? m with
      | none => .done (.error (.notRead (place m).2))
      | some text => match read text with
        | none => .done (.error .misshapen)
        | some settings => .done (.ok settings)) := rfl
  rw [hload]
  cases fileText? m with
  | none => rfl
  | some text => 
    dsimp only
    cases read text <;> rfl

/-- What comes of loading when the file may be missing. -/
def ifPresent (there : Bool) : Except Error Settings → Except Error (Option Settings)
  | .ok settings => .ok (some settings)
  | .error e => if there then .error e else .ok none

lemma run_loadIfPresent (m : Machine) :
    m.run loadIfPresent =
      ⟨ifPresent (m.answer (.has (place m).2)).1 (m.run load).value, m, []⟩ := by
  have hload : m.run load = ⟨(m.run load).value, m, []⟩ := by rw [run_load]
  unfold loadIfPresent
  rw [Program.bind_eq_bind, Machine.run, Program.run_bind, ← Machine.run, hload]
  rcases (m.run load).value with e | settings
  · let missing : MachineProgram (Except Error (Option Settings)) :=
      if (m.answer (.has (place m).2)).1 then .done (.error e) else .done (.ok none)
    change (⟨(m.run missing).value, (m.run missing).state, (m.run missing).notes⟩ : Run _ _ _) = _
    simp only [missing, ifPresent]
    cases (m.answer (.has (place m).2)).1 <;> rfl
  · rfl

lemma run_resolve (m : Machine) (given : Option String) :
    (m.run (resolve given)).value = (m.run loadIfPresent).value.map
      (configOf given (m.environment.lookup Database.Config.urlVariable)) := by
  have hload : m.run loadIfPresent = ⟨(m.run loadIfPresent).value, m, []⟩ := by rw [run_loadIfPresent]
  unfold resolve
  rw [Program.bind_eq_bind, Machine.run, Program.run_bind, ← Machine.run, hload]
  cases (m.run loadIfPresent).value <;> rfl

lemma configOf_some (given environment : Option String) (settings : Settings) :
    configOf given environment (some settings) =
      { url := (given.or environment).getD settings.url
        maxConnections := settings.maxConnections.getD 5 } := by
  rw [configOf, Option.map_some]
  cases given.or environment <;> rfl

lemma configOf_none (given environment : Option String) :
    configOf given environment none =
      { url := (given.or environment).getD Database.Config.defaultUrl, maxConnections := 5 } := by
  rw [configOf, Option.map_none, Option.or_none]
  rfl

/-! ## Steps keep the settings -/

/-- The file of the settings can be kept on a machine, once its directories are made. -/
def Ready (m : Machine) : Prop :=
  ∃ made path, m.tree.makeDirectories? m.directory (place m).1 = some made ∧
    made.Keeps m.directory (place m).1 (place m).2 path

/-- What a step leaves when it writes to the file of the settings. -/
structure Holds (m m' : Machine) (text : String) : Prop where
  ready : Ready m'
  text_eq : fileText? m' = some text
  environment_eq : m'.environment = m.environment

variable {m : Machine}

/-- The tree of files was changed so that the file of the settings is kept and holds a text. -/
lemma holds_of_keeps {tree : FileTree} {path : Path} {text : String}
    (h : tree.Keeps m.directory (place m).1 (place m).2 path)
    (htext : (tree.file? path).map File.text = some text) : Holds m { m with tree } text where
  ready := ⟨tree, path, h.made _ (.refl _), h⟩
  text_eq := by
    have hfile : fileText? { m with tree } =
        (tree.resolve? m.directory (place m).2 >>= tree.file?).map File.text := rfl
    rw [hfile, h.leads]
    exact htext
  environment_eq := rfl

/-- Where the file can be kept, its directories can be made and it can be written. -/
lemma Ready.write (h : Ready m) (text : String) :
    ∃ made tree path,
      m.answer (.makeDirectory (place m).1) = (true, { m with tree := made }) ∧
        Machine.answer { m with tree := made } (.writeFile (place m).2 text) =
          (true, { m with tree }) ∧
        tree.Keeps m.directory (place m).1 (place m).2 path ∧
        (tree.file? path).map File.text = some text := by
  obtain ⟨made, path, hmade, hkeeps⟩ := h
  obtain ⟨tree, hwrite, hkept, htext⟩ := hkeeps.write text
  exact ⟨made, tree, path, Machine.answer_makeDirectory hmade,
    Machine.answer_writeFile hkeeps.leads hwrite, hkept, htext⟩

lemma Ready.overwrite (h : Ready m) (text : String) :
    Holds m (m.run (Settings.overwrite text)).state text := by
  obtain ⟨made, tree, path, hmade, hwrite, hkept, htext⟩ := h.write text
  simp only [run_overwrite, hmade, hwrite]
  exact holds_of_keeps hkept htext

/-- Where the file can be kept, settings can be saved. -/
lemma Ready.save (h : Ready m) (settings : Settings) :
    (m.run (Settings.save settings)).value = .ok () ∧
      Holds m (m.run (Settings.save settings)).state settings.text := by
  obtain ⟨made, tree, path, hmade, hwrite, hkept, htext⟩ := h.write settings.text
  obtain ⟨closed, hclose, hclosed, htext⟩ := hkept.makePrivate htext
  have hprivate : Machine.answer { m with tree } (.makePrivate (place m).2) =
      (true, { m with tree := closed }) := Machine.answer_makePrivate hkept.leads hclose
  have hrun : m.run (Settings.save settings) = ⟨.ok (), { m with tree := closed }, []⟩ := by
    simp only [run_save, hmade, hwrite, hprivate, if_true]
  rw [hrun]
  exact ⟨rfl, holds_of_keeps hclosed htext⟩

/-- Who can save settings can keep their file. -/
lemma ready_of_canSave (h : CanSave m) : Ready m := by
  obtain ⟨settings, hsave⟩ := h
  rw [run_save] at hsave
  rcases hmade : m.tree.makeDirectories? m.directory (place m).1 with _ | made
  · have hanswer : m.answer (.makeDirectory (place m).1) = (false, m) := congrArg m.change hmade
    rw [hanswer] at hsave
    exact nomatch hsave
  have hmake : m.answer (.makeDirectory (place m).1) = (true, { m with tree := made }) :=
    Machine.answer_makeDirectory hmade
  rcases hwrite : made.resolve? m.directory (place m).2 >>= fun path =>
      made.write? path settings.text with _ | tree
  · have hanswer : Machine.answer { m with tree := made }
        (.writeFile (place m).2 settings.text) = (false, { m with tree := made }) :=
      congrArg (Machine.change { m with tree := made }) hwrite
    simp only [hmake, hanswer, if_true] at hsave
    exact nomatch hsave
  · obtain ⟨path, hleads, hwrite⟩ := Option.bind_eq_some_iff.1 hwrite
    exact ⟨made, path, hmade, FileTree.keeps_of_write hmade hleads hwrite⟩

/-- The environment does not say elsewhere where settings are when the address is set. -/
lemma place_setUrl (m : Machine) (url : Option String) :
    place (m.setVariable Database.Config.urlVariable url) = place m := by
  rw [place, Machine.lookup_setVariable_of_ne _ _ (by decide),
    Machine.lookup_setVariable_of_ne _ _ (by decide), place]

lemma Ready.setUrl (h : Ready m) (url : Option String) :
    Ready (m.setVariable Database.Config.urlVariable url) := by
  rw [Ready, place_setUrl]
  exact h

lemma fileText?_setUrl (m : Machine) (url : Option String) :
    fileText? (m.setVariable Database.Config.urlVariable url) = fileText? m := by
  rw [fileText?, place_setUrl]
  rfl

lemma Ready.run (h : Ready m) (step : Step) : Ready (step.run m) := by
  cases step with
  | write text => exact (h.overwrite text).ready
  | setUrl url => exact h.setUrl url
  | save settings fits => exact (h.save settings).2.ready

/-! ## Any number of steps -/

lemma after_append (m : Machine) (before later : List Step) :
    after m (before ++ later) = after (after m before) later :=
  List.foldl_append

lemma Ready.afterAll (h : Ready m) (steps : List Step) : Ready (after m steps) := by
  induction steps generalizing m with
  | nil => exact h
  | cons step steps ih => exact ih (h.run step)

/-- Setting the address does not touch the file. -/
lemma fileText?_after_setUrl (m : Machine) (urls : List (Option String)) :
    fileText? (after m (urls.map .setUrl)) = fileText? m := by
  induction urls generalizing m with
  | nil => rfl
  | cons url urls ih => exact (ih _).trans (fileText?_setUrl m url)

/-- Steps that do not set the address leave it. -/
lemma Ready.lookup_after (h : Ready m) {steps : List Step}
    (hsteps : ∀ step ∈ steps, ∀ url, step ≠ .setUrl url) :
    (after m steps).environment.lookup Database.Config.urlVariable =
      m.environment.lookup Database.Config.urlVariable := by
  induction steps generalizing m with
  | nil => rfl
  | cons step steps ih =>
    rw [List.forall_mem_cons] at hsteps
    have hstep : (step.run m).environment = m.environment := by
      cases step with
      | write text => exact (h.overwrite text).environment_eq
      | setUrl url => exact absurd rfl (hsteps.1 url)
      | save settings fits => exact (h.save settings).2.environment_eq
    exact (ih (h.run step) hsteps.2).trans (by rw [hstep])

/-- A step is the last one that touched the file: behind it the address was set at most. -/
def LastTouch (steps : List Step) (step : Step) : Prop :=
  ∃ before urls, steps = before ++ step :: List.map Step.setUrl urls

/-- The file holds what the last step that touched it wrote. -/
lemma Ready.fileText?_after (h : Ready m) {steps : List Step} {step : Step} {text : String}
    (hlast : LastTouch steps step) (hholds : ∀ m, Ready m → Holds m (step.run m) text) :
    fileText? (Settings.after m steps) = some text := by
  obtain ⟨before, urls, rfl⟩ := hlast
  rw [after_append]
  exact (fileText?_after_setUrl _ urls).trans (hholds _ (h.afterAll before)).text_eq

/-- What settings do on a machine after some steps, and which database is used for what is given
with a command. -/
structure Settled (now : Machine) (steps : List Step) (given : Option String) : Prop where
  /-- Settings can be saved. -/
  saves : ∀ settings, (now.run (save settings)).value = .ok ()
  /-- The environment has the address that was set last. -/
  environment : ∀ before url later, steps = before ++ .setUrl url :: later →
    (∀ step ∈ later, ∀ url, step ≠ .setUrl url) →
      now.environment.lookup Database.Config.urlVariable = url
  /-- The file holds what was written last. -/
  written : ∀ text, LastTouch steps (.write text) → fileText? now = some text
  /-- Settings that were saved last are loaded unchanged. -/
  loaded : ∀ settings fits, LastTouch steps (.save settings fits) →
    (now.run load).value = .ok settings
  /-- The address is the given one, else the one of the environment, else the one of the
  settings. -/
  resolved : ∀ settings fits, LastTouch steps (.save settings fits) →
    (now.run (resolve given)).value = .ok
      { url := (given.or (now.environment.lookup Database.Config.urlVariable)).getD settings.url
        maxConnections := settings.maxConnections.getD 5 }
  /-- A file that holds no settings is an error, whatever is given. -/
  misshapen : ∀ text, fileText? now = some text → read text = none →
    (now.run (resolve given)).value = .error .misshapen
  /-- Without a file the address is the given one, else the one of the environment, else the one
  that everybody uses. -/
  missing : (now.answer (.has (place now).2)).1 = false →
    (now.run (resolve given)).value = .ok
      { url := (given.or (now.environment.lookup Database.Config.urlVariable)).getD
          Database.Config.defaultUrl
        maxConnections := 5 }

/-- What is saved is loaded as it was saved. -/
lemma run_load_of_fileText? {settings : Settings} (fits : settings.Fits)
    (h : fileText? m = some settings.text) : (m.run load).value = .ok settings := by
  rw [run_load, h]
  simp only [read_text fits]

/-- There is a file if it has a text. -/
lemma has_of_fileText? {text : String} (h : fileText? m = some text) :
    (m.answer (.has (place m).2)).1 = true := by
  have hfile : (m.tree.resolve? m.directory (place m).2 >>= m.tree.file?).map File.text =
      some text := h
  obtain ⟨file, hfile, -⟩ := Option.map_eq_some_iff.1 hfile
  obtain ⟨path, hleads, hfile⟩ := Option.bind_eq_some_iff.1 hfile
  have hhas : (m.answer (.has (place m).2)).1 =
      (m.tree.resolve? m.directory (place m).2).any m.tree.has := rfl
  rw [hhas, hleads, Option.any_some, FileTree.has, hfile]
  rfl

/-- **Settings are kept and found in order.**  Where settings can be saved at all, they can be saved
after any steps; what was saved last is loaded unchanged, whatever its address looks like; and the
database to use is found in one order. -/
theorem settled_after (m : Machine) (h : CanSave m) (steps : List Step) (given : Option String) :
    Settled (after m steps) steps given := by
  have hready := ready_of_canSave h
  have hsaved : ∀ settings fits, LastTouch steps (.save settings fits) →
      ((after m steps).run load).value = .ok settings := by
    intro settings fits hlast
    refine run_load_of_fileText? fits (hready.fileText?_after hlast fun m hm => ?_)
    exact (hm.save settings).2
  constructor
  case saves => exact fun settings => ((hready.afterAll steps).save settings).1
  case environment =>
    rintro before url later rfl hlater
    rw [after_append]
    have hset : Ready (Step.run (.setUrl url) (after m before)) := (hready.afterAll before).run _
    exact (hset.lookup_after hlater).trans (Machine.lookup_setVariable _ _ _)
  case written =>
    exact fun text hlast => hready.fileText?_after hlast fun m hm => hm.overwrite text
  case loaded => exact hsaved
  case resolved =>
    intro settings fits hlast
    rw [run_resolve, run_loadIfPresent, hsaved settings fits hlast]
    exact congrArg Except.ok (configOf_some _ _ settings)
  case misshapen =>
    intro text htext hread
    rw [run_resolve, run_loadIfPresent, run_load, htext]
    simp only [hread, ifPresent, has_of_fileText? htext, if_true]
    rfl
  case missing =>
    intro hmissing
    have hnone : fileText? (after m steps) = none := by
      rcases htext : fileText? (after m steps) with _ | text
      · rfl
      · rw [has_of_fileText? htext] at hmissing
        exact nomatch hmissing
    rw [run_resolve, run_loadIfPresent, run_load, hnone, hmissing]
    exact congrArg Except.ok (configOf_none _ _)

/-- A machine that says where settings are, and has none. -/
def freshMachine : Machine where
  tree := { directories := [["home", "ada"]] }
  environment := [(directoryVariable, "/home/ada/etc")]

/-- Settings with an address that no style holds as it is. -/
def oddSettings : Settings where
  url := "postgresql://ünï:it's\"\"\"'''\\\u0007@h\n\r/db"
  maxConnections := some 12

theorem settled_after_oddSettings :
    CanSave freshMachine ∧
      let steps := [Step.write "[database", .setUrl (some "postgresql://h/db"),
        .save oddSettings (by decide), .setUrl none]
      ((after freshMachine steps).run load).value = .ok oddSettings ∧
        ((after freshMachine steps).run (resolve none)).value =
          .ok { url := oddSettings.url, maxConnections := 12 } := by
  have hsave : CanSave freshMachine := ⟨⟨"", none⟩, by decide +kernel⟩
  refine ⟨hsave, ?_⟩
  intro steps
  have hlast : LastTouch steps (.save oddSettings (by decide)) :=
    ⟨[.write "[database", .setUrl (some "postgresql://h/db")], [none], rfl⟩
  have hsettled := settled_after freshMachine hsave steps none
  refine ⟨hsettled.loaded _ _ hlast, ?_⟩
  have hunset := hsettled.environment (steps.take 3) none [] rfl nofun
  have hresolved := hsettled.resolved _ _ hlast
  rwa [hunset] at hresolved

end Settings

end PaymentPlans
