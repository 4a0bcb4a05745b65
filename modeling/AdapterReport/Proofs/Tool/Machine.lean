import AdapterReport.Tool.System.Execution
import Mathlib.Logic.Basic

/-!
# What a machine shows

What can be seen of a machine is its `Frame`: the clock, what was written and when, the end of the
first process, and with them the numbers that are taken and the pipes. Most of what the system does
on a request leaves the frame alone.

* `frame_goOn`, `frame_deliver`, …: the operations that do so.
* `Follows`: all that one step can do to a frame (`perform_follows`).
* `Kept`: what every step keeps, whatever the processes do (`Kept.follows`), and so a whole run
  (`kept_run`): what is written is in order of time, the first process ends once and in time, and no
  pipe holds more than its capacity.
-/

namespace AdapterReport.Machine

/-- What can be seen of a machine, the numbers of its processes and its pipes. -/
structure Frame where
  now : Time
  written : List Write
  outcome : Option (Time × Ending)
  ids : List Nat
  next : Nat
  pipes : List (Nat × List UInt8)

def frame (m : Machine) : Frame :=
  ⟨m.now, m.written, m.outcome, m.running.map (·.id), m.next, m.pipes⟩

variable {m m' : Machine} {p : Running} {w : Watch}

/-! ## What leaves the frame alone -/

theorem map_id_update (m : Machine) (p : Running) :
    (m.update p).running.map (·.id) = m.running.map (·.id) := by
  rw [update, List.map_map]
  refine List.map_congr_left fun q _ => ?_
  by_cases h : q.id = p.id <;> simp [h]

@[simp] theorem frame_update (m : Machine) (p : Running) : (m.update p).frame = m.frame := by
  rw [frame, map_id_update]
  rfl

@[simp] theorem frame_goOn (m : Machine) (p : Running) (code : Process) (time : Time) :
    (m.goOn p code time).frame = m.frame :=
  frame_update m _

@[simp] theorem frame_keep (m : Machine) (signal : Nat) (p : Running) :
    (m.keep signal p).frame = m.frame := by
  simp only [keep]
  split <;> rw [frame_update]

@[simp] theorem frame_tellParent (m : Machine) (id : Nat) : (m.tellParent id).frame = m.frame := by
  unfold tellParent
  split
  · split
    · exact frame_keep m _ _
    · rfl
  · rfl

@[simp] theorem frame_strike (m : Machine) (signal : Nat) (p : Running) :
    (m.strike signal p).frame = m.frame := by
  unfold strike
  split
  · rfl
  · exact frame_update m _

@[simp] theorem frame_effect (m : Machine) (signal : Nat) (p : Running) :
    (m.effect signal p).frame = m.frame := by
  simp only [effect]
  generalize (if (signal == Signal.kill || signal == Signal.stop) = true then SignalAction.default
    else p.actionOf signal) = action
  cases action with
  | ignored => rfl
  | caught => exact frame_keep m signal p
  | default => cases Signal.effectOf signal <;> simp

theorem frame_foldl {α : Type} {f : Machine → α → Machine} (hf : ∀ m a, (f m a).frame = m.frame)
    (l : List α) (m : Machine) : (l.foldl f m).frame = m.frame := by
  induction l generalizing m with
  | nil => rfl
  | cons a l ih => rw [List.foldl_cons, ih, hf]

@[simp] theorem frame_effects (m : Machine) (signals : List Nat) (id : Nat) :
    (m.effects signals id).frame = m.frame :=
  frame_foldl (fun m _ => by cases m.process? id <;> simp) signals m

@[simp] theorem frame_deliver (m : Machine) (signal : Nat) (p : Running) :
    (m.deliver signal p).frame = m.frame := by
  simp only [deliver]
  split
  · rw [frame_effects, frame_update]
  · split
    · exact frame_update m _
    · exact frame_effect m signal p

theorem frame_deliverAll (m : Machine) (signal : Nat) (ids : List Nat) :
    (ids.foldl (fun m id => ((m.process? id).map (m.deliver signal)).getD m) m).frame =
      m.frame :=
  frame_foldl (fun m id => by cases m.process? id <;> simp) ids m

@[simp] theorem frame_goBack (m : Machine) (h : Handle) (count : Nat) :
    (m.goBack h count).frame = m.frame := by
  unfold goBack
  split
  · split <;> rfl
  · rfl

@[simp] theorem frame_writeToFile (m : Machine) (number : Nat) (bytes : List UInt8) :
    (m.writeToFile number bytes).frame = m.frame := by
  unfold writeToFile
  split <;> rfl

/-! ## What one step can do -/

/-- Whether no pipe holds more than its capacity. -/
def Frame.Bounded (f : Frame) : Prop := ∀ pipe ∈ f.pipes, pipe.2.length ≤ capacity

/-- What one step can do to a frame. It takes no time by itself: the clock is set before the step,
and what is written now has this time. A process that was not there has a new number, and if the
end of the first process is noted, this process was there and has gone. -/
structure Follows (f f' : Frame) : Prop where
  now : f'.now = f.now
  next : f.next ≤ f'.next
  written : ∃ new, f'.written = new ++ f.written ∧ ∀ x ∈ new, x.time = f.now
  ids : ∀ id ∈ f'.ids, id ∈ f.ids ∨ f.next ≤ id ∧ id < f'.next
  outcome : f'.outcome = f.outcome ∨
    first ∈ f.ids ∧ first ∉ f'.ids ∧ ∃ ending, f'.outcome = some (f.now, ending)
  bounded : f.Bounded → f'.Bounded

namespace Follows

variable {f f' : Frame}

/-- A step that only takes new numbers and changes what the pipes hold. -/
theorem of_pipes (hnow : f'.now = f.now) (hnext : f.next ≤ f'.next)
    (hwritten : f'.written = f.written) (hids : f'.ids = f.ids) (houtcome : f'.outcome = f.outcome)
    (hbounded : f.Bounded → f'.Bounded) : Follows f f' where
  now := hnow
  next := hnext
  written := ⟨[], hwritten, nofun⟩
  ids _ h := .inl (hids ▸ h)
  outcome := .inl houtcome
  bounded := hbounded

theorem of_eq (h : f' = f) : Follows f f' := by
  subst h
  exact of_pipes rfl (Nat.le_refl _) rfl rfl rfl id

end Follows

theorem mem_ids_of_process? {id : Nat} (h : m.process? id = some p) : p.id ∈ m.frame.ids :=
  List.mem_map_of_mem (List.mem_of_find?_eq_some h)

theorem sweep_follows (m : Machine) : Follows m.frame m.sweep.frame :=
  .of_pipes rfl (Nat.le_refl _) rfl rfl rfl fun h pipe hpipe => h pipe (List.mem_filter.mp hpipe).1

/-- Nobody has ever the number of a process that has ended. -/
theorem finish_follows (hp : p.id ∈ m.frame.ids) (ending : Ending) :
    Follows m.frame (m.finish p ending).frame := by
  have hids : (m.finish p ending).frame.ids = m.frame.ids.filter (· != p.id) := by
    rw [finish, frame_tellParent]
    show ((m.running.filter _).map _).map _ = _
    rw [List.map_map, frame, List.filter_map]
    refine List.map_congr_left fun q _ => ?_
    show (if q.parent == p.id then { q with parent := 1 } else q).id = q.id
    split <;> rfl
  have houtcome : (m.finish p ending).frame.outcome =
      if p.id == first then some (m.now, ending) else m.outcome := by
    rw [finish, frame_tellParent]
    rfl
  refine ⟨?_, ?_, ⟨[], ?_, nofun⟩, fun id hid => .inl ?_, ?_, fun h pipe hpipe => ?_⟩
  · rw [finish, frame_tellParent]
    rfl
  · rw [finish, frame_tellParent]
    exact Nat.le_refl m.next
  · rw [finish, frame_tellParent]
    rfl
  · rw [hids] at hid
    exact (List.mem_filter.mp hid).1
  · rw [houtcome, hids]
    by_cases h : p.id = first
    · rw [if_pos (beq_iff_eq.mpr h)]
      exact .inr ⟨h ▸ hp, by simp [h], ending, rfl⟩
    · rw [if_neg (by simpa using h)]
      exact .inl rfl
  · rw [finish, frame_tellParent] at hpipe
    exact h pipe (List.mem_filter.mp hpipe).1

theorem deliverToSelf_follows (m : Machine) (signal : Nat) (p : Running) :
    Follows m.frame (m.deliverToSelf signal p).frame := by
  simp only [deliverToSelf]
  rw [← frame_deliver m signal p]
  split
  · rename_i q hq
    cases q.fatal with
    | none => exact .of_eq rfl
    | some signal => exact finish_follows (mem_ids_of_process? hq) _
  · exact .of_eq rfl

/-! ### Pipes -/

theorem length_held_le (h : m.frame.Bounded) (pipe : Nat) : (m.held pipe).length ≤ capacity := by
  unfold held
  cases hl : m.pipes.lookup pipe with
  | none => exact Nat.zero_le _
  | some bytes =>
    obtain ⟨before, after, heq, -⟩ := List.lookup_eq_some_iff.mp hl
    refine h (pipe, bytes) ?_
    rw [frame, heq]
    exact List.mem_append_right before List.mem_cons_self

theorem hold_follows {pipe : Nat} {bytes : List UInt8}
    (h : m.frame.Bounded → bytes.length ≤ capacity) :
    Follows m.frame (m.hold pipe bytes).frame := by
  refine .of_pipes rfl (Nat.le_refl _) rfl rfl rfl fun hm entry hentry => ?_
  obtain ⟨before, hbefore, rfl⟩ := List.mem_map.mp hentry
  split
  · exact h hm
  · exact hm before hbefore

/-! ### Requests -/

theorem readFrom_follows {h : Handle} {size : Nat} {bytes : List UInt8}
    (hread : m.readFrom h size = .ok (m', bytes)) : Follows m.frame m'.frame := by
  unfold readFrom at hread
  split at hread
  · exact nomatch hread
  · cases hobject : h.object with
    | pipe pipe =>
      rw [hobject] at hread
      cases hread
      refine hold_follows fun hm => ?_
      rw [List.length_drop]
      exact Nat.le_trans (Nat.sub_le _ _) (length_held_le hm _)
    | void | zeros | full =>
      rw [hobject] at hread
      cases hread
      exact .of_eq rfl
    | channel | directory =>
      rw [hobject] at hread
      cases hread
    | file number =>
      rw [hobject] at hread
      cases hfile : m.opened.lookup number with
      | none => simp [hfile] at hread
      | some file =>
        simp only [hfile, Except.ok.injEq, Prod.mk.injEq] at hread
        obtain ⟨rfl, -⟩ := hread
        exact .of_eq rfl

theorem openPath_follows {path : List UInt8} {mode : OpenMode} {h : Handle}
    (hopen : m.openPath p path mode = .ok (m', h)) : Follows m.frame m'.frame := by
  have hfile (files : FileTree) (place : List EntryName) (appends : Bool) :
      Follows m.frame (addOpen { m with files := files } ⟨place, 0, appends⟩).1.frame :=
    .of_pipes rfl (Nat.le_succ _) rfl rfl rfl id
  unfold openPath at hopen
  cases hfind : m.find p (if mode == .read then .target else .file) path with
  | error e => rw [hfind] at hopen; cases hopen
  | ok found =>
    obtain ⟨full, entry⟩ := found
    rw [hfind] at hopen
    cases entry with
    | none =>
      dsimp only [bind, Except.bind] at hopen
      split at hopen <;> cases hopen
      exact hfile _ _ _
    | some entry =>
      dsimp only [bind, Except.bind] at hopen
      obtain ⟨-, hopen⟩ | ⟨-, hopen⟩ := ite_eq_iff.mp hopen
      · cases hopen
      cases entry with
      | link | terminal => cases hopen
      | void | zeros | full =>
        cases hopen
        exact .of_eq rfl
      | file content =>
        cases hopen
        exact hfile _ _ _
      | directory =>
        dsimp only at hopen
        split at hopen <;> cases hopen
        exact .of_eq rfl
      | descriptor n =>
        dsimp only at hopen
        split at hopen <;> cases hopen
        · exact hfile _ _ _
        · exact .of_eq rfl

theorem performWrite_follows (m : Machine) (p : Running) (h : Handle) (descriptor : Nat)
    (bytes : List UInt8) (next : Except SystemError Unit → Process) :
    Follows m.frame (m.performWrite p h descriptor bytes next).frame := by
  simp only [performWrite]
  split
  · exact .of_eq (frame_goOn m _ _ _)
  cases h.object with
  | channel c =>
    rw [frame_goOn]
    exact ⟨rfl, Nat.le_refl _, ⟨[⟨m.now, c, bytes⟩], rfl, by simp [frame]⟩, fun _ => .inl, .inl rfl,
      id⟩
  | void | zeros | directory => exact .of_eq (frame_goOn m _ _ _)
  | full =>
    dsimp only
    split <;> exact .of_eq (frame_goOn m _ _ _)
  | file number =>
    rw [frame_goOn, frame_writeToFile]
    exact .of_eq rfl
  | pipe pipe =>
    dsimp only
    split
    · split
      · rw [← frame_goOn m p (next (.error .brokenPipe)) requestTime]
        exact deliverToSelf_follows _ _ _
      · exact .of_eq (frame_goOn m _ _ _)
    · split
      · rename_i hroom
        rw [frame_goOn]
        refine hold_follows fun hm => ?_
        have hheld := length_held_le hm pipe
        rw [List.length_append]
        omega
      · split
        · exact .of_eq (frame_goOn m _ _ _)
        · rw [frame_goOn]
          refine hold_follows fun hm => ?_
          have hheld := length_held_le hm pipe
          rw [List.length_append, List.length_take]
          omega

theorem performSend_follows (m : Machine) (p : Running) (signal target : Nat)
    (next : Except SystemError Unit → Process) :
    Follows m.frame (m.performSend p signal target next).frame := by
  simp only [performSend]
  split
  · split
    · exact .of_eq (frame_goOn m _ _ _)
    · split
      · rw [← frame_goOn m p (next (.ok ())) requestTime]
        exact deliverToSelf_follows _ _ _
      · rw [frame_deliver, frame_goOn]
        exact .of_eq rfl
  · split <;> exact .of_eq (frame_goOn m _ _ _)

theorem performSendGroup_follows (m : Machine) (p : Running) (signal group : Nat)
    (next : Except SystemError Unit → Process) :
    Follows m.frame (m.performSendGroup p signal group next).frame := by
  unfold performSendGroup
  split
  · rw [frame_deliverAll, frame_goOn]
    exact .of_eq rfl
  · exact .of_eq (frame_goOn m _ _ _)

theorem performWait_follows (m : Machine) (p : Running) (next : Waited → Process) :
    Follows m.frame (m.performWait p next).frame := by
  unfold performWait
  split
  · rw [frame_goOn]
    exact .of_eq rfl
  · split
    · exact .of_eq (frame_goOn m _ _ _)
    · split <;> exact .of_eq (frame_goOn m _ _ _)

/-- A process that is started has the next number. -/
theorem performFork_follows (m : Machine) (p : Running) (child : Process) (next : Nat → Process) :
    Follows m.frame (m.performFork p child next).frame := by
  simp only [performFork]
  rw [frame_goOn]
  refine ⟨rfl, Nat.le_succ _, ⟨[], rfl, nofun⟩, fun id hid => ?_, .inl rfl, id⟩
  rw [frame, List.map_append, List.mem_append] at hid
  refine hid.imp_right fun hborn => ?_
  rw [List.map_singleton, List.mem_singleton] at hborn
  subst hborn
  exact ⟨Nat.le_refl _, Nat.lt_succ_self _⟩

theorem answer_follows (hp : p.id ∈ m.frame.ids) : Follows m.frame (m.answer p).frame := by
  unfold answer
  cases p.code with
  | exit status => exact finish_follows hp _
  | fork child next => exact performFork_follows m p child next
  | ask request next =>
    cases request with
    | write descriptor bytes =>
      dsimp only
      split
      · exact .of_eq (frame_goOn m _ _ _)
      · exact performWrite_follows m p _ descriptor bytes next
    | wait blocks => exact performWait_follows m p next
    | send signal target => exact performSend_follows m p signal target next
    | sendGroup signal group => exact performSendGroup_follows m p signal group next
    | read descriptor size =>
      dsimp only
      split
      · exact .of_eq (frame_goOn m _ _ _)
      split
      · exact .of_eq (frame_goOn m _ _ _)
      split
      · rename_i hread
        rw [frame_goOn]
        exact readFrom_follows hread
      · exact .of_eq (frame_goOn m _ _ _)
    | openPath path mode =>
      dsimp only
      split
      · exact .of_eq (frame_goOn m _ _ _)
      · rename_i hopen
        rw [frame_goOn]
        exact openPath_follows hopen
    | close descriptor | duplicate descriptor target =>
      dsimp only
      split
      · exact .of_eq (frame_goOn m _ _ _)
      · rw [← frame_goOn m]
        exact sweep_follows _
    | become =>
      dsimp only
      rw [← frame_goOn m]
      exact sweep_follows _
    | goBack descriptor count =>
      dsimp only
      rw [frame_goOn]
      cases p.handle? descriptor with
      | none => exact .of_eq rfl
      | some h => exact .of_eq (frame_goBack m h count)
    | duplicateAbove descriptor least =>
      dsimp only
      split <;> exact .of_eq (frame_goOn m _ _ _)
    | pipe =>
      dsimp only
      rw [frame_goOn]
      refine .of_pipes rfl (Nat.le_succ _) rfl rfl rfl fun hm => ?_
      exact List.forall_mem_cons.mpr ⟨Nat.zero_le _, hm⟩
    | enter path =>
      dsimp only
      split <;> exact .of_eq (frame_goOn m _ _ _)
    | _ => exact .of_eq (frame_goOn m _ _ _)

/-- **One step** does nothing else to what can be seen of a machine. -/
theorem perform_follows (hp : p.id ∈ m.frame.ids) : Follows m.frame (m.perform p).frame := by
  unfold perform
  split
  · exact finish_follows hp _
  · exact answer_follows hp

/-! ## What a run keeps -/

/-- What every step keeps while a machine is watched: new numbers are new, what is written stands in
order of time, the last piece first, and the first process has ended at most once and in time. Only
what it has left behind writes after that, and not for long. -/
structure Kept (w : Watch) (f : Frame) : Prop where
  fresh : first < f.next ∧ ∀ id ∈ f.ids, id < f.next
  bounded : f.Bounded
  ordered : f.written.Pairwise fun later earlier => earlier.time ≤ later.time
  past : ∀ x ∈ f.written, x.time ≤ f.now
  gone : ∀ t ending, f.outcome = some (t, ending) → first ∉ f.ids
  inTime : ∀ t ending, f.outcome = some (t, ending) → t < w.last
  within : ∀ x ∈ f.written, x.time < w.last ∨
    ∃ t ending, f.outcome = some (t, ending) ∧ x.time < t + w.after

namespace Kept

theorem start (files : FileTree) (code : Process) : Kept w (start files code).frame where
  fresh := ⟨Nat.lt_succ_self _, fun _ hid => List.mem_singleton.mp hid ▸ Nat.lt_succ_self _⟩
  bounded := nofun
  ordered := .nil
  past := nofun
  gone := nofun
  inTime := nofun
  within := nofun

theorem advanced (h : Kept w m.frame) (time : Time) : Kept w (m.advanced time).frame where
  fresh := h.fresh
  bounded := h.bounded
  ordered := h.ordered
  past x hx := Nat.le_trans (h.past x hx) (Nat.le_max_left m.now time)
  gone := h.gone
  inTime := h.inTime
  within := h.within

theorem ask (h : Kept w m.frame) (time : Time) : Kept w (m.ask time).frame := by
  unfold Machine.ask
  split
  · rw [frame_deliver]
    exact h.advanced time
  · exact h

/-- A machine that is still watched keeps this in one step. -/
theorem follows (h : Kept w m.frame) (hwatched : m.now < m.limit w)
    (hstep : Follows m.frame m'.frame) : Kept w m'.frame := by
  obtain ⟨hnow, hnext, ⟨new, hwritten, hnew⟩, hids, houtcome, hbounded⟩ := hstep
  -- an end that was noted before stays, since the first process is not there any more
  have hstays (t : Time) (ending : Ending) (ht : m.outcome = some (t, ending)) :
      m'.frame.outcome = some (t, ending) :=
    houtcome.elim (·.trans ht) fun hends => absurd hends.1 (h.gone t ending ht)
  have hwithin : m.now < w.last ∨
      ∃ t ending, m'.frame.outcome = some (t, ending) ∧ m.now < t + w.after := by
    cases ho : m.outcome with
    | none => exact .inl (by rwa [limit, ho] at hwatched)
    | some outcome =>
      refine .inr ⟨outcome.1, outcome.2, hstays _ _ ho, ?_⟩
      rwa [limit, ho] at hwatched
  have hgone (t : Time) (ending : Ending) (ht : m'.frame.outcome = some (t, ending)) :
      first ∉ m'.frame.ids := by
    rcases houtcome with hsame | ⟨-, hgone, -⟩
    · intro hmem
      rcases hids first hmem with hbefore | ⟨hnumber, -⟩
      · exact h.gone t ending (hsame ▸ ht) hbefore
      · exact Nat.not_lt.mpr hnumber h.fresh.1
    · exact hgone
  have hinTime (t : Time) (ending : Ending) (ht : m'.frame.outcome = some (t, ending)) :
      t < w.last := by
    rcases houtcome with hsame | ⟨hthere, -, _, hends⟩
    · exact h.inTime t ending (hsame ▸ ht)
    · obtain ⟨rfl, -⟩ := Prod.mk.inj (Option.some.inj (hends.symm.trans ht))
      cases ho : m.outcome with
      | none => rwa [limit, ho] at hwatched
      | some outcome => exact absurd hthere (h.gone outcome.1 outcome.2 ho)
  refine ⟨⟨Nat.lt_of_lt_of_le h.fresh.1 hnext, fun id hid => ?_⟩, hbounded h.bounded, ?_,
    fun x hx => ?_, hgone, hinTime, fun x hx => ?_⟩
  · exact (hids id hid).elim (fun hold => Nat.lt_of_lt_of_le (h.fresh.2 id hold) hnext) (·.2)
  · rw [hwritten, List.pairwise_append]
    refine ⟨List.pairwise_of_forall_mem_list fun x hx y hy => ?_, h.ordered, fun x hx y hy => ?_⟩
    · exact Nat.le_of_eq ((hnew y hy).trans (hnew x hx).symm)
    · rw [hnew x hx]
      exact h.past y hy
  · rw [hwritten, List.mem_append] at hx
    rw [hnow]
    exact hx.elim (fun hx => Nat.le_of_eq (hnew x hx)) (h.past x)
  · rw [hwritten, List.mem_append] at hx
    rcases hx with hx | hx
    · rw [hnew x hx]
      exact hwithin
    · exact (h.within x hx).imp_right fun ⟨t, ending, ht, hlt⟩ =>
        ⟨t, ending, hstays t ending ht, hlt⟩

end Kept

/-! ## Runs -/

theorem earlier_spec (best : Option Running) (q : Running) :
    ∃ b, earlier best q = some b ∧ (b = q ∨ best = some b) ∧ b.wake ≤ q.wake ∧
      ∀ r, best = some r → b.wake ≤ r.wake := by
  cases best with
  | none => exact ⟨q, rfl, .inl rfl, Nat.le_refl _, nofun⟩
  | some b =>
    by_cases h : q.wake < b.wake
    · exact ⟨q, if_pos h, .inl rfl, Nat.le_refl _, fun r hr => by cases hr; exact Nat.le_of_lt h⟩
    · exact ⟨b, if_neg h, .inr rfl, Nat.not_lt.mp h, fun r hr => by cases hr; exact Nat.le_refl _⟩

theorem foldl_earlier_spec {ps : List Running} {best : Option Running}
    (h : ps.foldl earlier best = some p) :
    (p ∈ ps ∨ best = some p) ∧ ∀ q, q ∈ ps ∨ best = some q → p.wake ≤ q.wake := by
  induction ps generalizing best with
  | nil =>
    refine ⟨.inr h, fun q hq => ?_⟩
    cases h.symm.trans (hq.resolve_left List.not_mem_nil)
    exact Nat.le_refl _
  | cons q ps ih =>
    obtain ⟨b, hb, hfrom, hq, hbest⟩ := earlier_spec best q
    rw [List.foldl_cons, hb] at h
    obtain ⟨hmem, hleast⟩ := ih h
    have hpb : p.wake ≤ b.wake := hleast b (.inr rfl)
    refine ⟨?_, fun r hr => ?_⟩
    · rcases hmem with hmem | hmem
      · exact .inl (List.mem_cons_of_mem q hmem)
      · cases hmem
        exact hfrom.imp_left fun heq => List.mem_cons.mpr (.inl heq)
    · rcases hr with hr | hr
      · rcases List.mem_cons.mp hr with rfl | hr
        · exact Nat.le_trans hpb hq
        · exact hleast r (.inl hr)
      · exact Nat.le_trans hpb (hbest r hr)

/-- Of the processes that are ready, the one that goes on has waited longest. -/
theorem chosen?_spec (h : m.chosen? = some p) :
    p ∈ m.running ∧ m.ready p = true ∧ ∀ q ∈ m.running, m.ready q = true → p.wake ≤ q.wake := by
  obtain ⟨hmem, hleast⟩ := foldl_earlier_spec h
  obtain ⟨hrunning, hready⟩ := List.mem_filter.mp (hmem.resolve_right nofun)
  exact ⟨hrunning, hready, fun q hq hqready => hleast q (.inl (List.mem_filter.mpr ⟨hq, hqready⟩))⟩

theorem kept_run (n : Nat) (asked : Bool) (h : Kept w m.frame) :
    Kept w (run w n asked m).frame := by
  induction n generalizing asked m with
  | zero =>
    unfold run
    split
    · exact h
    · exact h.ask w.asked
  | succ n ih =>
    simp only [run]
    split
    · rename_i p hp
      split
      · exact ih true (h.ask w.asked)
      split
      · rename_i hwatched
        have hmem : p.id ∈ (m.advanced p.wake).frame.ids :=
          List.mem_map_of_mem (chosen?_spec hp).1
        exact ih _ ((h.advanced p.wake).follows hwatched (perform_follows hmem))
      · exact h
    · split
      · exact h
      · exact ih true (h.ask w.asked)

end AdapterReport.Machine
