import Mathlib
import WordPairs.Proofs.Files.Isolation

/-!
# Sessions do what their histories say

A step begins a file, fills one, moves one to its target, gives one up, or does nothing. Each of
these keeps a session in agreement with its history, and only a file that is moved to its target
changes what stands at the places.
-/

namespace WordPairs.Session

/-- What a step does to a session, and what it answers. -/
inductive Step (session : Session) (name : String) : Action → Reply → Session → Prop where
  /-- A file is begun, and one of the same name is given up. -/
  | begun {target : Path} {staged : Staged} {next : Tree}
      (created : Staged.create target session.tree = .ok (staged, next)) :
      Step session name (.create target) .done (session.keep name (staged,
        match session.file? name with
        | some old => old.discard next
        | none => next))
  /-- A file cannot be begun. -/
  | refused {target : Path} {cause : Failure} :
      Step session name (.create target) (.failed cause) session
  /-- There is no file. -/
  | closed {action : Action} (free : session.file? name = none)
      (other : ∀ target, action ≠ .create target) : Step session name action .closed session
  /-- A file accepts bytes. -/
  | filled {action : Action} {reply : Reply} {staged : Staged} {last : Staged × Tree}
      (found : session.file? name = some staged) (fills : action.fills = true)
      (follows : Staged.Follows (staged, session.tree) last
        (Deed.accepted ⟨name, action, reply⟩)) :
      Step session name action reply (session.keep name last)
  /-- A file is moved to its target. -/
  | moved {staged : Staged} {place : Location} (found : session.file? name = some staged)
      (reached : session.tree.goal staged.target = .ok place) :
      Step session name .finish (.written staged.accepted) (session.close name
        ((staged.discard session.tree).put place (.file (staged.content session.tree))))
  /-- A file cannot be moved to its target, and is given up. -/
  | lost {staged : Staged} {cause : Failure} (found : session.file? name = some staged)
      (failed : ∀ place, session.tree.goal staged.target ≠ .ok place) :
      Step session name .finish (.failed cause)
        (session.close name (staged.discard session.tree))
  /-- A file is given up. -/
  | dropped {staged : Staged} (found : session.file? name = some staged) :
      Step session name .discard .done (session.close name (staged.discard session.tree))

section Steps

variable {session : Session} {name : String} {staged : Staged}

/-- Beginning a file is a step. -/
theorem step_create (session : Session) (name : String) (target : Path) :
    Step session name (.create target) (session.create name target).1
      (session.create name target).2 := by
  rw [create]
  cases created : Staged.create target session.tree with
  | error cause => exact .refused
  | ok made => exact .begun created

/-- What is done with an open file is a step. -/
theorem step_act (found : session.file? name = some staged)
    (present : staged.serial ∈ session.tree.serials) (action : Action) :
    Step session name action (session.act name staged action).1
      (session.act name staged action).2 := by
  cases action with
  | create target => exact step_create session name target
  | write bytes =>
    have accepted : Deed.accepted ⟨name, .write bytes, .written bytes.length⟩ = bytes :=
      List.take_length
    have follows := Staged.accept_follows present bytes
    exact .filled found rfl (accepted.symm ▸ follows)
  | writeAll bytes =>
    obtain ⟨last, wrote, follows⟩ := Staged.writeAll_follows present bytes
    simp only [act, wrote]
    exact .filled found rfl follows
  | flush => exact .filled found rfl (Staged.spill_follows present)
  | writeRecords records =>
    obtain ⟨last, wrote, follows⟩ := Staged.writeRecords_follows present records
    simp only [act, wrote]
    exact .filled found rfl follows
  | writeTo generator list budget source =>
    obtain ⟨last, wrote, follows⟩ := Staged.writeTo_follows present generator list budget source
    simp only [act, wrote]
    exact .filled found rfl follows
  | finish =>
    cases reached : session.tree.goal staged.target with
    | error cause =>
      simp only [act, Staged.finish_of_no_goal present reached]
      exact .lost found (fun place found => by simp [reached] at found)
    | ok place =>
      simp only [act, Staged.finish_of_goal present reached]
      exact .moved found reached
  | discard => exact .dropped found

/-- Whatever is done in a session is a step. -/
theorem step_perform
    (present : ∀ staged, session.file? name = some staged →
      staged.serial ∈ session.tree.serials) (action : Action) :
    Step session name action (session.perform name action).1 (session.perform name action).2 := by
  cases found : session.file? name with
  | some staged =>
    simp only [perform, found]
    exact step_act found (present staged found) action
  | none =>
    cases action with
    | create target =>
      simp only [perform, found]
      exact step_create session name target
    | _ =>
      simp only [perform, found]
      exact .closed found (fun _ => nofun)

variable {action : Action} {reply : Reply} {next : Session}

/-- A step that moves no file changes nothing at the places. -/
theorem named_of_step (step : Step session name action reply next)
    (unmoved : ∀ count, ¬(action = .finish ∧ reply = .written count)) :
    next.tree.named = session.tree.named := by
  cases step with
  | begun created =>
    have restored := Tree.removeTemporary_of_createTemporary (Staged.create_eq_ok created).1
    have named := congrArg Tree.named restored
    cases session.file? name with
    | none => exact named
    | some old => exact named
  | refused => rfl
  | closed => rfl
  | filled found fills follows => exact follows.named
  | moved => exact absurd ⟨rfl, rfl⟩ (unmoved _)
  | lost => rfl
  | dropped => rfl

end Steps

namespace Sound

variable {tree : Tree} {held : String → Option Holding} {stands : Location → Option Node}
  {log : List Deed} {session next : Session} {name : String} {action : Action} {reply : Reply}

/-- The goals of moves in a session are those of its tree in the beginning. -/
theorem goal_eq (sound : Sound tree (opened · log) (placed tree · log) session) {path : Path}
    {place : Location} : session.tree.goal path = .ok place ↔ tree.goal path = .ok place := by
  have directories : tree.SameDirectories session.tree := fun place => by
    rw [sound.places, placed_eq_directory_iff]
  exact ⟨Tree.goal_of_sameDirectories fun place => (directories place).symm,
    Tree.goal_of_sameDirectories directories⟩

/-- A session agrees with its history after a step if it has the file that the step leaves. -/
theorem of_leaves {left : Option Holding} {stands : Location → Option Node}
    (sound : Sound tree (fun other => if other = name then left else opened other log) stands next)
    (leaves : Deed.leaves ⟨name, action, reply⟩ (opened name log) = left)
    (places : ∀ place, stands place = placed tree place (⟨name, action, reply⟩ :: log)) :
    let later := ⟨name, action, reply⟩ :: log
    Sound tree (opened · later) (placed tree · later) next := by
  refine sound.congr (fun other => ?_) places
  rw [opened]
  by_cases same : other = name
  · rw [if_pos same, if_pos same, same, leaves]
  · rw [if_neg same, if_neg same]

/-- A session that agrees with its history does so after one more step. -/
theorem step (sound : Sound tree (opened · log) (placed tree · log) session)
    (step : Step session name action reply next) :
    let later := ⟨name, action, reply⟩ :: log
    Sound tree (opened · later) (placed tree · later) next := by
  have idle : Sound tree (fun other => if other = name then opened name log else opened other log)
      (placed tree · log) session := by
    refine sound.congr (fun other => ?_) fun _ => rfl
    by_cases same : other = name
    · rw [if_pos same, same]
    · rw [if_neg same]
  cases step with
  | begun created =>
    cases found : session.file? name with
    | none => exact of_leaves (sound.create found created) rfl fun _ => rfl
    | some old => exact of_leaves (sound.recreate found created) rfl fun _ => rfl
  | refused => exact of_leaves idle rfl fun _ => rfl
  | closed free other =>
    have nothing : opened name log = none := by
      rw [← sound.holds name, free]
      rfl
    refine of_leaves idle ?_ fun _ => ?_
    · rw [nothing]
      cases action with
      | create target => exact absurd rfl (other target)
      | _ => rfl
    · cases action <;> rfl
  | filled found fills follows =>
    refine of_leaves (sound.keep found follows) ?_ fun _ => ?_
    · cases action <;> first | rfl | cases fills
    · cases action <;> first | rfl | cases fills
  | moved found reached =>
    rename_i staged place
    have named := (Tree.names_ne_nil_of_goal reached).1
    have held : opened name log = some (staged.holding session.tree) := by
      rw [← sound.holds name, found]
      rfl
    have reached : tree.goal? staged.target = some place :=
      Tree.goal?_eq_some_iff.2 (sound.goal_eq.1 reached)
    refine of_leaves ((sound.close found).put named (staged.content session.tree)) rfl
      fun other => ?_
    rw [placed, held]
    simp only [Staged.holding, reached, Option.some.injEq, eq_comm]
  | lost found failed => exact of_leaves (sound.close found) rfl fun _ => rfl
  | dropped found => exact of_leaves (sound.close found) rfl fun _ => rfl

/-- A session that agrees with its history makes steps. -/
theorem step_perform (sound : Sound tree held stands session) (name : String) (action : Action) :
    Step session name action (session.perform name action).1 (session.perform name action).2 :=
  Session.step_perform (fun _ => sound.present) action

/-- A session that agrees with its history does so after any steps. -/
theorem performAll (sound : Sound tree (opened · log) (placed tree · log) session)
    (steps : List (String × Action)) :
    let later := session.log steps ++ log
    Sound tree (opened · later) (placed tree · later) (session.performAll steps).2 := by
  induction steps generalizing session log with
  | nil => exact sound
  | cons entry steps ih =>
    obtain ⟨name, action⟩ := entry
    have rest := ih (sound.step (sound.step_perform name action))
    rw [log_cons, List.append_assoc]
    exact rest

/-- There is one temporary file for each open file beside those of the tree. -/
theorem length_temporaries (sound : Sound tree held stands session) :
    session.tree.temporaries.length = tree.temporaries.length + session.files.length := by
  have lengths := sound.temporaries.length_eq
  simp only [Tree.serials, serials, List.length_append, List.length_map] at lengths
  rw [lengths, Nat.add_comm]

/-- The open files have the names under which something is held. -/
theorem mem_names_iff (sound : Sound tree held stands session) (name : String) :
    name ∈ session.files.map (·.1) ↔ (held name).isSome := by
  rw [← sound.holds name, Option.isSome_map]
  cases found : session.file? name with
  | none =>
    refine iff_of_false (fun member => ?_) (by simp)
    obtain ⟨entry, inside, same⟩ := List.mem_map.1 member
    have differs := List.lookup_eq_none_iff.1 found entry inside
    simp [same] at differs
  | some staged => exact iff_of_true (List.mem_map.2 ⟨_, mem_of_file? found, rfl⟩) rfl

/-- A file that is finished comes to stand at its target with all that it accepted, and nowhere
else does anything change. -/
theorem finished (sound : Sound tree (opened · log) (placed tree · log) session) {count : Nat}
    (step : Step session name .finish (.written count) next) :
    ∃ holding place, opened name log = some holding ∧ count = holding.bytes.length ∧
      tree.goal holding.target = .ok place ∧
      next.tree.node? place = some (.file holding.bytes) ∧
      next.tree.read holding.target = .ok holding.bytes ∧
      ∀ other, other ≠ place → next.tree.node? other = session.tree.node? other := by
  cases step with
  | filled found fills follows => cases fills
  | moved found reached =>
    rename_i staged place
    have named := (Tree.names_ne_nil_of_goal reached).1
    refine ⟨staged.holding session.tree, place, ?_, sound.counts name staged found,
      sound.goal_eq.1 reached, ?_, ?_, fun other distinct => ?_⟩
    · rw [← sound.holds name, found]
      rfl
    · exact Tree.node?_put_self _ _ named
    · have same := session.tree.named_removeTemporary staged.serial
      exact Tree.read_put_of_goal ((Tree.goal_congr same _).trans reached) _
    · exact Tree.node?_put_of_ne _ _ distinct

/-- A file can be finished if its target leads anywhere. -/
theorem written_of_goal (sound : Sound tree (opened · log) (placed tree · log) session)
    (step : Step session name .finish reply next) {holding : Holding}
    (held : opened name log = some holding) {place : Location}
    (reached : tree.goal holding.target = .ok place) :
    reply = .written holding.bytes.length := by
  have holds := sound.holds name
  rw [held] at holds
  cases step with
  | closed free other => simp [free] at holds
  | filled found fills follows => cases fills
  | moved found _ =>
    rw [found] at holds
    cases holds
    exact congrArg Reply.written (sound.counts name _ found)
  | lost found failed =>
    rw [found] at holds
    cases holds
    exact absurd (sound.goal_eq.2 reached) (failed place)

end Sound

/-- Files of a session never disturb each other, and only finishing one changes a place. After any
steps in any order each place holds what the last file that was finished there has brought, or what
was there in the beginning, and there is one temporary file for each open file. Finishing a file
succeeds if its target leads anywhere, answers how many bytes the file has accepted since it was
begun, and puts exactly these in place; whatever else is done changes no place. -/
theorem performAll_isolates (tree : Tree) (steps : List (String × Action)) :
    let session := ((start tree).performAll steps).2
    let log := (start tree).log steps
    (∀ place, session.tree.node? place = placed tree place log) ∧
      session.tree.temporaries.length = tree.temporaries.length + session.files.length ∧
      (session.files.map (·.1)).Nodup ∧
      (∀ name, name ∈ session.files.map (·.1) ↔ (opened name log).isSome) ∧
      ∀ name action,
        let reply := (session.perform name action).1
        let next := (session.perform name action).2
        (∀ count, action = .finish → reply = .written count →
          ∃ holding place, opened name log = some holding ∧ count = holding.bytes.length ∧
            tree.goal holding.target = .ok place ∧
            next.tree.node? place = some (.file holding.bytes) ∧
            next.tree.read holding.target = .ok holding.bytes ∧
            ∀ other, other ≠ place → next.tree.node? other = session.tree.node? other) ∧
          (∀ holding place, action = .finish → opened name log = some holding →
            tree.goal holding.target = .ok place → reply = .written holding.bytes.length) ∧
          ((∀ count, ¬(action = .finish ∧ reply = .written count)) →
            next.tree.named = session.tree.named) := by
  intro session log
  have begun : Sound tree (opened · []) (placed tree · []) (Session.start tree) := Sound.start tree
  have sound := begun.performAll steps
  rw [List.append_nil] at sound
  refine ⟨sound.places, sound.length_temporaries, sound.names, sound.mem_names_iff,
    fun name action => ?_⟩
  intro reply next
  have step : Step session name action reply next := sound.step_perform name action
  refine ⟨fun count finish written => ?_, fun holding place finish held reached => ?_,
    named_of_step step⟩
  · rw [finish, written] at step
    exact sound.finished step
  · rw [finish] at step
    exact sound.written_of_goal step held reached

/-- Steps with two files of one target, of which the first is finished. -/
def rivals : List (String × Action) :=
  [("a", .create ⟨"out"⟩), ("b", .create ⟨"out"⟩), ("a", .writeAll [1]), ("b", .write [2]),
    ("a", .finish), ("b", .write [3])]

/-- Of two files with one target, the one that is finished last stands there with its own bytes. -/
theorem performAll_isolates_rivals :
    let session := ((start .empty).performAll rivals).2
    session.tree.read ⟨"out"⟩ = .ok [1] ∧ (session.perform "b" .finish).1 = .written 2 ∧
      (session.perform "b" .finish).2.tree.read ⟨"out"⟩ = .ok [2, 3] := by
  have before : ((start .empty).performAll rivals).2.tree.read ⟨"out"⟩ = .ok [1] := by cbv
  have written : (((start .empty).performAll rivals).2.perform "b" .finish).1 = .written 2 := by
    cbv
  have held : opened "b" ((start .empty).log rivals) = some ⟨⟨"out"⟩, [2, 3]⟩ := by cbv
  have isolated := (performAll_isolates .empty rivals).2.2.2.2 "b" .finish
  obtain ⟨holding, place, found, _, _, _, read, _⟩ := isolated.1 2 rfl written
  rw [held] at found
  cases found
  exact ⟨before, written, read⟩

end WordPairs.Session
