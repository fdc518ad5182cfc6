import Mathlib.Logic.Relation
import StatusBar.Session

/-!
# Watching the file

The file is watched by a loop of its own. When it hears of a change, it waits a moment, throws away
what else it has heard meanwhile, loads the file, and sends the configuration to the host if there
is one. Meanwhile the file may be written again, even while it is read, and what is heard of that
may be thrown away, too.

Nothing is missed for all that (`settles_on_file`). Whatever the loop throws away, it loads the file
afterwards. So when nothing is left to be heard of, the last load began after all that was heard,
and saw the file as it is. The invariant is that something is still to be heard of, or is going to
be loaded, or the history ends with a load of the present file (`Sound`).
-/

namespace StatusBar

open Clock (Moment)
open Relation (ReflTransGen)

namespace Watch

/-- What the system tells of the file. -/
inductive Event where
  | created
  | modified
  /-- Anything that is not about the content. -/
  | other
  | error
deriving Repr, DecidableEq

/-- Whether the file is loaded after the event. -/
def Event.isChange : Event → Bool
  | created | modified => true
  | other | error => false

/-- Where the loop is. -/
inductive Stage where
  | receiving
  /-- Has heard of a change, and waits for others to follow. -/
  | waiting
  /-- Throws away what is queued. -/
  | discarding
  /-- Has found nothing more to throw away. -/
  | ready
  /-- Loads the file, which may have been written since the load began. -/
  | loading (disturbed : Bool)
  | sending (c : Config)
  /-- The host is gone, and a configuration could not be sent. -/
  | ended (c : Config)

/-- What has happened, as far as it matters here. -/
inductive Entry where
  /-- An event that tells of a change has been queued. -/
  | queued
  | began
  /-- A load has ended that saw this content. -/
  | loaded (seen : FileContent)

end Watch

/-- The file, the loop that watches it, and what lies between the two and the host. -/
structure Watch where
  file : FileContent
  /-- Events that are to be queued, the oldest first. -/
  owed : List Watch.Event := []
  queue : List Watch.Event := []
  stage : Watch.Stage := .receiving
  /-- The configuration that is to be taken by the host next. -/
  mailbox : Option Config := none
  /-- The configurations that the host has taken, in order. -/
  taken : List Config := []
  /-- All that has happened, in order. -/
  log : List Watch.Entry := []

namespace Watch

/-- How many events fit into the queue. -/
def capacity : Nat := 16

/-- The stage after the file has been written. -/
def Stage.disturb : Stage → Stage
  | loading _ => loading true
  | s => s

/-- The stage after a load with this outcome. A file that is ill-formed is as good as no change. -/
def Stage.afterLoad : Except ConfigError (Config × List Notice) → Stage
  | .ok (c, _) => sending c
  | .error _ => receiving

/-- A configuration that has been loaded and not sent. -/
def Stage.unsent : Stage → List Config
  | sending c | ended c => [c]
  | _ => []

/-- The configurations that have been sent to the host, in order. -/
def sent (w : Watch) : List Config := w.taken ++ w.mailbox.toList

/-- The configuration that a load gave. -/
def Entry.config? (path : String) : Entry → Option Config
  | loaded seen => (Config.load path seen).toOption.map (·.1)
  | queued | began => none

/-- The steps of all that take part. -/
inductive Step (path : String) : Watch → Watch → Prop where
  /-- The file is written, and an event is going to tell of it. -/
  | write {w} (content : FileContent) (e : Event) : e.isChange = true →
      Step path w { w with file := content, owed := w.owed ++ [e], stage := w.stage.disturb }
  /-- Something else happens that an event is going to tell of. -/
  | stir {w} (e : Event) : Step path w { w with owed := w.owed ++ [e] }
  /-- An event is queued as soon as there is room. -/
  | announce {w e rest} : w.owed = e :: rest → w.queue.length < capacity →
      Step path w { w with
        owed := rest, queue := w.queue ++ [e]
        log := w.log ++ if e.isChange then [.queued] else [] }
  | receive {w e rest} : w.stage = .receiving → w.queue = e :: rest →
      Step path w { w with
        queue := rest, stage := if e.isChange then .waiting else .receiving }
  | wait {w} : w.stage = .waiting → Step path w { w with stage := .discarding }
  | discard {w e rest} : w.stage = .discarding → w.queue = e :: rest →
      Step path w { w with queue := rest }
  | drain {w} : w.stage = .discarding → w.queue = [] → Step path w { w with stage := .ready }
  | beginLoad {w} : w.stage = .ready →
      Step path w { w with stage := .loading false, log := w.log ++ [.began] }
  /-- A load sees the file, unless the file has been written meanwhile. Then it may see anything. -/
  | endLoad {w disturbed} (seen : FileContent) : w.stage = .loading disturbed →
      (disturbed = false → seen = w.file) →
      Step path w { w with
        stage := .afterLoad (Config.load path seen), log := w.log ++ [.loaded seen] }
  | send {w c} : w.stage = .sending c → w.mailbox = none →
      Step path w { w with stage := .receiving, mailbox := some c }
  /-- The host takes a configuration. -/
  | take {w c} : w.mailbox = some c →
      Step path w { w with mailbox := none, taken := w.taken ++ [c] }
  /-- The host is gone. -/
  | giveUp {w c} : w.stage = .sending c → Step path w { w with stage := .ended c }

abbrev Run (path : String) : Watch → Watch → Prop := ReflTransGen (Step path)

/-- The beginning, when the file has this content. -/
def init (file : FileContent) : Watch := { file }

/-- Nothing is left to be heard of, and the loop waits for the next event. -/
structure AtRest (w : Watch) : Prop where
  owed : w.owed = []
  queue : w.queue = []
  stage : w.stage = .receiving

/-! ### What is sent -/

/-- What has been loaded is sent in the same order, and nothing else is. -/
theorem sent_step {path : String} {w w' : Watch} (hstep : Step path w w')
    (h : w.sent ++ w.stage.unsent = w.log.filterMap (·.config? path)) :
    w'.sent ++ w'.stage.unsent = w'.log.filterMap (·.config? path) := by
  cases hstep with
  | write content e he =>
    have hunsent : w.stage.disturb.unsent = w.stage.unsent := by
      cases w.stage <;> rfl
    simpa [sent, hunsent] using h
  | stir e => exact h
  | announce _ _ =>
    rename_i e rest _ _
    have hnothing :
        (if e.isChange then [Entry.queued] else []).filterMap (·.config? path) = [] := by
      split <;> rfl
    simpa [sent, hnothing] using h
  | receive hstage _ =>
    rename_i e rest _
    have hunsent : (if e.isChange then Stage.waiting else .receiving).unsent = [] := by
      split <;> rfl
    rw [hstage] at h
    rw [hunsent]
    exact h
  | wait hstage | drain hstage _ => simpa [sent, hstage, Stage.unsent] using h
  | discard _ _ => exact h
  | beginLoad hstage => simpa [sent, hstage, Stage.unsent, Entry.config?] using h
  | endLoad seen hstage _ =>
    have hload : (Stage.afterLoad (Config.load path seen)).unsent =
        [Entry.loaded seen].filterMap (·.config? path) := by
      rw [List.filterMap_cons]
      simp only [Entry.config?]
      cases Config.load path seen <;> rfl
    have hnothing : w.stage.unsent = [] := by rw [hstage]; rfl
    rw [hnothing, List.append_nil] at h
    rw [List.filterMap_append, ← h, hload]
    rfl
  | send hstage hmailbox => simpa [sent, hstage, hmailbox, Stage.unsent] using h
  | take hmailbox => simpa [sent, hmailbox] using h
  | giveUp hstage => simpa [sent, hstage, Stage.unsent] using h

/-- What was sent, and is still to be sent, are the configurations that were loaded, in order. -/
theorem sent_run {path : String} {file : FileContent} {w : Watch} (hrun : Run path (init file) w) :
    w.sent ++ w.stage.unsent = w.log.filterMap (·.config? path) := by
  induction hrun with
  | refl => rfl
  | tail _ hstep ih => exact sent_step hstep ih

/-! ### What is missed -/

/-- An event that tells of a change is queued or on its way. -/
def IsPending (w : Watch) : Prop := ∃ e, (e ∈ w.owed ∨ e ∈ w.queue) ∧ e.isChange = true

/-- Nothing has happened, or last of all the file has been loaded as it is. -/
def IsSettled (file : FileContent) (w : Watch) : Prop :=
  w.log = [] ∧ w.file = file ∨ ∃ before, w.log = before ++ [.began, .loaded w.file]

/-- What may be missing at each stage. -/
def Sound (file : FileContent) (w : Watch) : Prop :=
  match w.stage with
  | .receiving | .sending _ => w.IsPending ∨ w.IsSettled file
  | .loading disturbed => w.IsPending ∨ disturbed = false ∧ ∃ before, w.log = before ++ [.began]
  -- a load is to come, or none is ever to come
  | .waiting | .discarding | .ready | .ended _ => True

/-- As long as an event is pending nothing is missed. -/
theorem Sound.of_pending {file : FileContent} {w : Watch} (h : w.IsPending) : w.Sound file := by
  unfold Sound
  split
  · exact .inl h
  · exact .inl h
  · exact .inl h
  all_goals trivial

/-- What is of no concern to the file may change. -/
theorem Sound.congr {file : FileContent} {w w' : Watch} (h : w.Sound file)
    (hstage : w'.stage = w.stage) (hfile : w'.file = w.file) (hlog : w'.log = w.log)
    (hpending : w.IsPending → w'.IsPending) : w'.Sound file := by
  have hsettled : w'.IsSettled file ↔ w.IsSettled file := by
    rw [IsSettled, IsSettled, hfile, hlog]
  unfold Sound at h ⊢
  rw [hstage]
  split at h
  · exact h.imp hpending hsettled.mpr
  · exact h.imp hpending hsettled.mpr
  · exact h.imp hpending (by rw [hlog]; exact id)
  all_goals trivial

/-- **No step misses a change.** A write leaves an event behind, and an event is discarded only
before a load. -/
theorem sound_step {path : String} {file : FileContent} {w w' : Watch} (hstep : Step path w w')
    (h : w.Sound file) : w'.Sound file := by
  cases hstep with
  | write content e he =>
    -- whatever the loop is at, there is something to be heard of now
    exact .of_pending ⟨e, by simp, he⟩
  | stir e =>
    refine h.congr rfl rfl rfl ?_
    rintro ⟨e', hmem, he'⟩
    exact ⟨e', hmem.imp_left (List.mem_append_left _), he'⟩
  | announce howed _ =>
    rename_i e rest _
    by_cases he : e.isChange = true
    · exact .of_pending ⟨e, by simp, he⟩
    · refine h.congr rfl rfl (by simp [he]) ?_
      rintro ⟨e', hmem, he'⟩
      refine ⟨e', ?_, he'⟩
      rcases hmem with hmem | hmem
      · rw [howed] at hmem
        rcases List.mem_cons.mp hmem with rfl | hrest
        · exact absurd he' he
        · exact .inl hrest
      · exact .inr (List.mem_append_left _ hmem)
  | receive hstage hqueue =>
    rename_i e rest
    by_cases he : e.isChange = true
    · simp only [he, if_true]
      trivial
    · simp only [he]
      refine h.congr hstage.symm rfl rfl ?_
      rintro ⟨e', hmem, he'⟩
      refine ⟨e', hmem.imp_right fun hmem => ?_, he'⟩
      rw [hqueue] at hmem
      rcases List.mem_cons.mp hmem with rfl | hrest
      · exact absurd he' he
      · exact hrest
  | wait hstage | drain hstage _ => trivial
  | discard hstage _ =>
    -- the file is loaded after this, so nothing is lost with the event
    unfold Sound
    simp only [hstage]
  | beginLoad hstage => exact .inr ⟨rfl, w.log, rfl⟩
  | endLoad seen hstage hsees =>
    -- a load that was disturbed is followed by another, for the event is still pending
    have hdone : w.IsPending ∨
        ∃ before, w.log ++ [.loaded seen] = before ++ [.began, .loaded w.file] := by
      unfold Sound at h
      rw [hstage] at h
      rcases h with hpending | ⟨hcalm, before, hlog⟩
      · exact .inl hpending
      · refine .inr ⟨before, ?_⟩
        rw [hlog, hsees hcalm, List.append_assoc]
        rfl
    unfold Sound
    cases Config.load path seen with
    | ok loaded => exact hdone.imp id .inr
    | error e => exact hdone.imp id .inr
  | send hstage _ =>
    unfold Sound at h
    rw [hstage] at h
    exact h
  | take _ => exact h.congr rfl rfl rfl id
  | giveUp hstage => trivial

theorem sound_run {path : String} {file : FileContent} {w : Watch} (hrun : Run path (init file) w) :
    w.Sound file := by
  induction hrun with
  | refl => exact .inr (.inl ⟨rfl, rfl⟩)
  | tail _ hstep ih => exact sound_step hstep ih

/-- **The host never stays behind the file.** Everything that could be loaded is sent, in order, and
nothing else. At rest either nothing has happened since the beginning, or the last load began after
all that was heard of the file, and saw it as it is. -/
theorem settles_on_file {path : String} {file : FileContent} {w : Watch}
    (hrun : Run path (init file) w) :
    w.sent ++ w.stage.unsent = w.log.filterMap (·.config? path) ∧
    (w.AtRest →
      w.log = [] ∧ w.file = file ∧ w.sent = [] ∨
      ∃ before, w.log = before ++ [.began, .loaded w.file] ∧
        (∀ c said, Config.load path w.file = .ok (c, said) → w.sent.getLast? = some c) ∧
        ∀ e, Config.load path w.file = .error e →
          w.sent.getLast? = (before.filterMap (·.config? path)).getLast?) := by
  have hsent := sent_run hrun
  refine ⟨hsent, fun hrest => ?_⟩
  have hnothing : w.stage.unsent = [] := by rw [hrest.stage]; rfl
  rw [hnothing, List.append_nil] at hsent
  have hcalm : ¬ w.IsPending := by
    rintro ⟨e, hmem, -⟩
    rw [hrest.owed, hrest.queue] at hmem
    simp at hmem
  have hsound := sound_run hrun
  unfold Sound at hsound
  rw [hrest.stage] at hsound
  rcases hsound.resolve_left hcalm with ⟨hlog, hfile⟩ | ⟨before, hlog⟩
  · refine .inl ⟨hlog, hfile, ?_⟩
    rw [hsent, hlog]
    rfl
  · have hlast : w.sent = before.filterMap (·.config? path) ++
        ((Config.load path w.file).toOption.map (·.1)).toList := by
      rw [hsent, hlog, List.filterMap_append]
      simp only [List.filterMap_cons, List.filterMap_nil, Entry.config?]
      cases Config.load path w.file <;> rfl
    refine .inr ⟨before, hlog, fun c said hload => ?_, fun e hload => ?_⟩
    · rw [hlast, hload]
      exact List.getLast?_concat
    · rw [hlast, hload]
      simp [Except.toOption]

/-- The second event is thrown away, and what it told of is loaded all the same. -/
theorem settles_on_file_discarding :
    let w : Watch := {
      file := .missing, taken := [{}]
      log := [.queued, .queued, .began, .loaded .missing] }
    Run "bar.toml" (init .directory) w ∧ w.AtRest ∧ w.sent.getLast? = some {} := by
  intro w
  have hrun : Run "bar.toml" (init .directory) w := by
    apply ReflTransGen.head (.write .directory .modified rfl)
    apply ReflTransGen.head (.announce rfl (by decide))
    apply ReflTransGen.head (.receive rfl rfl)
    apply ReflTransGen.head (.write .missing .created rfl)
    apply ReflTransGen.head (.announce rfl (by decide))
    apply ReflTransGen.head (.wait rfl)
    apply ReflTransGen.head (.discard rfl rfl)
    apply ReflTransGen.head (.drain rfl rfl)
    apply ReflTransGen.head (.beginLoad rfl)
    apply ReflTransGen.head (.endLoad .missing rfl fun _ => rfl)
    apply ReflTransGen.head (.send rfl rfl)
    apply ReflTransGen.single (.take rfl)
  have hrest : w.AtRest := ⟨rfl, rfl, rfl⟩
  refine ⟨hrun, hrest, ?_⟩
  rcases (settles_on_file hrun).2 hrest with ⟨hlog, -, -⟩ | ⟨before, -, hloads, -⟩
  · cases hlog
  · exact hloads {} _ rfl

/-! ### The session of the host -/

end Watch

namespace Session

variable {ω : Type} [Widget ω]

/-- Turns to a configuration. -/
def adopt (s : Session ω) (catalog : List (String × Construction ω)) (now : Moment) (c : Config) :
    Session ω × List Notice :=
  let (left, _) := (s.bar.stop now).takeSignals
  let (next, notices) := present catalog s.watching c now
  (left.foldl handle { next with lines := s.lines ++ next.lines }, notices)

/-- Turns to one configuration after the other. -/
def adoptAll (s : Session ω) (catalog : List (String × Construction ω)) (now : Moment)
    (cs : List Config) : Session ω :=
  cs.foldl (fun s c => (s.adopt catalog now c).1) s

/-- A session that watches adopts the configuration that it can load. -/
theorem reload?_of_ok {s : Session ω} (hwatching : s.watching = true) {path : String}
    {file : FileContent} {c : Config} {said : List Notice}
    (hload : Config.load path file = .ok (c, said)) (catalog : List (String × Construction ω))
    (now : Moment) :
    s.reload? catalog path file now =
      some ((s.adopt catalog now c).1, said ++ (s.adopt catalog now c).2) := by
  simp only [reload?, hload, adopt, hwatching]
  rfl

theorem reload?_of_error {s : Session ω} {path : String} {file : FileContent} {e : ConfigError}
    (hload : Config.load path file = .error e) (catalog : List (String × Construction ω))
    (now : Moment) : s.reload? catalog path file now = none := by
  simp only [reload?, hload, ite_self]

end Session

namespace Watch

variable {ω : Type} [Widget ω]

/-- **A change that is not followed by another comes to a reload.** -/
theorem exists_run_reload (path : String) {w : Watch} (hrest : w.AtRest)
    (hmailbox : w.mailbox = none) {s : Session ω} (hwatching : s.watching = true)
    (catalog : List (String × Construction ω)) (now : Moment) (content : FileContent) :
    ∃ w' new, Run path w w' ∧ w'.AtRest ∧ w'.mailbox = none ∧ w'.file = content ∧
      w'.taken = w.taken ++ new ∧
      s.adoptAll catalog now new = ((s.reload? catalog path content now).map (·.1)).getD s := by
  obtain ⟨file, owed, queue, stage, mailbox, taken, log⟩ := w
  obtain ⟨rfl, rfl, rfl⟩ := hrest
  obtain rfl : mailbox = none := hmailbox
  have hload : Run path ⟨file, [], [], .receiving, none, taken, log⟩
      ⟨content, [], [], .afterLoad (Config.load path content), none, taken,
        log ++ [.queued] ++ [.began] ++ [.loaded content]⟩ := by
    apply ReflTransGen.head (.write content .modified rfl)
    apply ReflTransGen.head (.announce rfl (Nat.zero_lt_succ 15))
    apply ReflTransGen.head (.receive rfl rfl)
    apply ReflTransGen.head (.wait rfl)
    apply ReflTransGen.head (.drain rfl rfl)
    apply ReflTransGen.head (.beginLoad rfl)
    apply ReflTransGen.single (.endLoad content rfl fun _ => rfl)
  cases hfile : Config.load path content with
  | error e =>
    rw [hfile] at hload
    refine ⟨_, [], hload, ⟨rfl, rfl, rfl⟩, rfl, rfl, (List.append_nil _).symm, ?_⟩
    rw [Session.reload?_of_error hfile]
    rfl
  | ok loaded =>
    obtain ⟨c, said⟩ := loaded
    rw [hfile] at hload
    have hrun := (hload.tail (.send rfl rfl)).tail (.take rfl)
    refine ⟨_, [c], hrun, ⟨rfl, rfl, rfl⟩, rfl, rfl, rfl, ?_⟩
    rw [Session.reload?_of_ok hwatching hfile]
    rfl

end Watch
end StatusBar
