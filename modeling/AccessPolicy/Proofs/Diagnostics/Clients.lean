import AccessPolicy.Proofs.Diagnostics.Ledger
import Mathlib.Logic.Function.Basic

namespace AccessPolicy.Diagnostics

/-- What a client is asked for: to record a message in a set, or all messages of another set. -/
inductive Call (ι : Type) where
  | add (set : ι) (identity? : Option String) (message : String)
  | merge (set other : ι)

/-- A client: what it has copied and not yet recorded, and the calls that it has not begun. -/
structure Client (ι : Type) where
  pending : List (ι × Note)
  calls : List (Call ι)

/-- What takes effect in one turn: a client records a message in a set, or it copies the messages of another set that are
to be recorded in a set. -/
inductive Event (κ ι : Type) where
  | recorded (client : κ) (set : ι) (note : Note)
  | copied (client : κ) (set other : ι) (notes : List Note)

/-- Sets of messages, their clients, and what has taken effect, the oldest first. -/
structure Desk (κ ι : Type) where
  sets : ι → Diagnostics
  clients : κ → Client ι
  history : List (Event κ ι)

variable {κ ι : Type}

/-- Whose turn it was. -/
def Event.client : Event κ ι → κ
  | recorded client _ _ => client
  | copied client _ _ _ => client

/-- Whether events are what the calls of a client come to, one after another. -/
inductive CarryOut (c : κ) : List (Call ι) → List (Event κ ι) → Prop
  | nil : CarryOut c [] []
  | add {calls : List (Call ι)} {events : List (Event κ ι)} (set : ι) (identity? : Option String) (message : String)
      (before : CarryOut c calls events) :
      CarryOut c (calls ++ [.add set identity? message]) (events ++ [.recorded c set ⟨identity?.getD "", message⟩])
  | merge {calls : List (Call ι)} {events : List (Event κ ι)} (set other : ι) (notes : List Note)
      (before : CarryOut c calls events) :
      CarryOut c (calls ++ [.merge set other]) (events ++ .copied c set other notes :: notes.map (.recorded c set))

/-- Clients that have not begun. -/
def Desk.start (prior : ι → Diagnostics) (calls : κ → List (Call ι)) : Desk κ ι :=
  ⟨prior, fun c => ⟨[], calls c⟩, []⟩

section History

variable [DecidableEq ι]

/-- The messages that were recorded in a set, in order. -/
def recordedIn (set : ι) (history : List (Event κ ι)) : List Note :=
  history.filterMap fun
    | .recorded _ own note => if own = set then some note else none
    | .copied .. => none

theorem recordedIn_append (set : ι) (history more : List (Event κ ι)) :
    recordedIn set (history ++ more) = recordedIn set history ++ recordedIn set more :=
  List.filterMap_append

end History

section Shares

variable [DecidableEq κ]

/-- What has taken effect in the turns of one client. -/
def eventsOf (c : κ) (history : List (Event κ ι)) : List (Event κ ι) := history.filter fun e => e.client = c

theorem eventsOf_append (c : κ) (history more : List (Event κ ι)) :
    eventsOf c (history ++ more) = eventsOf c history ++ eventsOf c more :=
  List.filter_append ..

end Shares

/-- Where something stands in a list with one more item: at the end, or where it stood. -/
theorem split_concat {α : Type} {items before after : List α} {last item : α}
    (split : items ++ [last] = before ++ item :: after) :
    (items = before ∧ last = item) ∨ ∃ rest, items = before ++ item :: rest := by
  rcases List.eq_nil_or_concat after with rfl | ⟨rest, final, rfl⟩
  · obtain ⟨same, rest⟩ := List.append_inj' split rfl
    exact Or.inl ⟨same, List.singleton_inj.mp rest⟩
  · rw [List.concat_eq_append, ← List.cons_append, ← List.append_assoc] at split
    exact Or.inr ⟨rest, (List.append_inj' split rfl).1⟩

namespace Desk

variable [DecidableEq κ]

/-- A client copies the messages of a set, and has them to record. -/
def copy (s : Desk κ ι) (c : κ) (set other : ι) (calls : List (Call ι)) : Desk κ ι where
  sets := s.sets
  clients := Function.update s.clients c ⟨(s.sets other).copies.map (set, ·), calls⟩
  history := s.history ++ [.copied c set other (s.sets other).copies]

@[simp] theorem copy_sets (s : Desk κ ι) (c : κ) (set other : ι) (calls : List (Call ι)) :
    (s.copy c set other calls).sets = s.sets := rfl

@[simp] theorem copy_clients (s : Desk κ ι) (c : κ) (set other : ι) (calls : List (Call ι)) :
    (s.copy c set other calls).clients c = ⟨(s.sets other).copies.map (set, ·), calls⟩ :=
  Function.update_self ..

variable [DecidableEq ι]

/-- A client records a message, and then has other things to do. -/
def put (s : Desk κ ι) (c : κ) (set : ι) (identity? : Option String) (message : String) (next : Client ι) :
    Desk κ ι where
  sets := Function.update s.sets set ((s.sets set).add identity? message)
  clients := Function.update s.clients c next
  history := s.history ++ [.recorded c set ⟨identity?.getD "", message⟩]

@[simp] theorem put_sets (s : Desk κ ι) (c : κ) (set : ι) (identity? : Option String) (message : String)
    (next : Client ι) :
    (s.put c set identity? message next).sets = Function.update s.sets set ((s.sets set).add identity? message) := rfl

@[simp] theorem put_clients (s : Desk κ ι) (c : κ) (set : ι) (identity? : Option String) (message : String)
    (next : Client ι) : (s.put c set identity? message next).clients c = next :=
  Function.update_self ..

/-- One turn of a client, in which no other can come between. Who has nothing to do does nothing. -/
def turn (s : Desk κ ι) (c : κ) : Desk κ ι :=
  match s.clients c with
  | ⟨(set, note) :: pending, calls⟩ => s.put c set (some note.identity) note.message ⟨pending, calls⟩
  | ⟨[], .add set identity? message :: calls⟩ => s.put c set identity? message ⟨[], calls⟩
  | ⟨[], .merge set other :: calls⟩ => s.copy c set other calls
  | ⟨[], []⟩ => s

/-- Turns of clients, one after another. -/
def run (s : Desk κ ι) (schedule : List κ) : Desk κ ι := schedule.foldl turn s

section Turns

variable {s : Desk κ ι} {c : κ} {set other : ι} {note : Note} {pending : List (ι × Note)} {calls : List (Call ι)}

theorem turn_of_pending (client : s.clients c = ⟨(set, note) :: pending, calls⟩) :
    s.turn c = s.put c set (some note.identity) note.message ⟨pending, calls⟩ := by
  rw [turn, client]

theorem turn_of_merge (client : s.clients c = ⟨[], .merge set other :: calls⟩) :
    s.turn c = s.copy c set other calls := by
  rw [turn, client]

/-- What a turn can be. -/
theorem turn_cases (s : Desk κ ι) (c : κ) :
    (∃ set note pending calls, s.clients c = ⟨(set, note) :: pending, calls⟩ ∧
      s.turn c = s.put c set (some note.identity) note.message ⟨pending, calls⟩) ∨
    (∃ set identity? message calls, s.clients c = ⟨[], .add set identity? message :: calls⟩ ∧
      s.turn c = s.put c set identity? message ⟨[], calls⟩) ∨
    (∃ set other calls, s.clients c = ⟨[], .merge set other :: calls⟩ ∧ s.turn c = s.copy c set other calls) ∨
    (s.clients c = ⟨[], []⟩ ∧ s.turn c = s) := by
  unfold turn
  obtain ⟨_ | ⟨⟨set, note⟩, pending⟩, _ | ⟨_ | _, calls⟩⟩ := s.clients c <;> simp

/-- In its turn, a client changes what it has to do itself, and nothing about others. -/
theorem turn_clients_of_ne {d : κ} (apart : d ≠ c) : (s.turn c).clients d = s.clients d := by
  obtain ⟨_, _, _, _, _, same⟩ | ⟨_, _, _, _, _, same⟩ | ⟨_, _, _, _, same⟩ | ⟨_, same⟩ := turn_cases s c <;> rw [same]
  all_goals exact Function.update_of_ne apart ..

theorem run_clients_of_not_mem {schedule : List κ} (absent : c ∉ schedule) : (s.run schedule).clients c = s.clients c := by
  induction schedule generalizing s with
  | nil => rfl
  | cons d rest ih =>
    obtain ⟨apart, absent⟩ : c ≠ d ∧ c ∉ rest := by simpa using absent
    exact (@ih (s.turn d) absent).trans (turn_clients_of_ne apart)

theorem run_append (s : Desk κ ι) (schedule more : List κ) : s.run (schedule ++ more) = (s.run schedule).run more :=
  List.foldl_append

end Turns

section Faith

variable {prior : ι → Diagnostics} {calls : κ → List (Call ι)} {s : Desk κ ι}

/-- Whether sets are what was recorded in them. What stands in a set is what stood there before and all that was
recorded in it since; what each client has done and has still to record are the calls that it has begun; and what was
copied of a set is what had been recorded in it by then. -/
structure Faithful (prior : ι → Diagnostics) (calls : κ → List (Call ι)) (s : Desk κ ι) : Prop where
  recorded : ∀ set, s.sets set = (prior set).extend (recordedIn set s.history)
  carriedOut : ∀ c, ∃ begun, calls c = begun ++ (s.clients c).calls ∧
    CarryOut c begun (eventsOf c s.history ++ (s.clients c).pending.map fun (set, note) => .recorded c set note)
  copied : ∀ before c set other notes after, s.history = before ++ .copied c set other notes :: after →
    notes = ((prior other).extend (recordedIn other before)).copies

theorem start_faithful (prior : ι → Diagnostics) (calls : κ → List (Call ι)) : (start prior calls).Faithful prior calls where
  recorded set := (extend_nil _).symm
  carriedOut c := ⟨[], rfl, .nil⟩
  copied before c set other notes after split := by simp [start] at split

/-- A client that records a message keeps the sets faithful, if the message is what it has to record next. -/
theorem Faithful.put (faithful : s.Faithful prior calls) {c : κ} {set : ι} {identity? : Option String} {message : String}
    {next : Client ι}
    (due : ∃ begun, calls c = begun ++ next.calls ∧ CarryOut c begun (eventsOf c s.history ++
      .recorded c set ⟨identity?.getD "", message⟩ :: next.pending.map fun (set, note) => .recorded c set note)) :
    (s.put c set identity? message next).Faithful prior calls where
  recorded own := by
    rw [Desk.put, recordedIn_append, ← extend_extend, ← faithful.recorded own]
    by_cases same : own = set
    · subst same
      simp [recordedIn, add, extend]
    · simp [recordedIn, Function.update_of_ne same, Ne.symm same]
  carriedOut d := by
    by_cases same : d = c
    · subst same
      simpa [Desk.put, eventsOf_append, eventsOf, Event.client] using due
    · simpa [Desk.put, eventsOf_append, eventsOf, Event.client, Function.update_of_ne same, Ne.symm same] using
        faithful.carriedOut d
  copied before d own other notes after split := by
    rcases split_concat split with ⟨_, last⟩ | ⟨rest, split⟩
    · cases last
    · exact faithful.copied before d own other notes rest split

/-- A client that copies the messages of a set keeps the sets faithful. -/
theorem Faithful.copy (faithful : s.Faithful prior calls) {c : κ} {set other : ι} {rest : List (Call ι)}
    (client : s.clients c = ⟨[], .merge set other :: rest⟩) : (s.copy c set other rest).Faithful prior calls where
  recorded own := by simpa [Desk.copy, recordedIn_append, recordedIn] using faithful.recorded own
  carriedOut d := by
    by_cases same : d = c
    · subst same
      obtain ⟨begun, all, done⟩ := faithful.carriedOut d
      rw [client, List.map_nil, List.append_nil] at done
      rw [client] at all
      refine ⟨begun ++ [.merge set other], ?_, ?_⟩
      · simpa [Desk.copy] using all
      · simpa [Desk.copy, eventsOf_append, eventsOf, Event.client, Function.comp_def] using
          done.merge set other (s.sets other).copies
    · simpa [Desk.copy, eventsOf_append, eventsOf, Event.client, Function.update_of_ne same, Ne.symm same] using
        faithful.carriedOut d
  copied before d own another notes after split := by
    rcases split_concat split with ⟨rfl, last⟩ | ⟨rest, split⟩
    · obtain ⟨-, -, rfl, rfl⟩ := Event.copied.inj last
      rw [← faithful.recorded]
    · exact faithful.copied before d own another notes rest split

/-- Each turn keeps the sets faithful. -/
theorem Faithful.turn (faithful : s.Faithful prior calls) (c : κ) : (s.turn c).Faithful prior calls := by
  obtain ⟨begun, all, done⟩ := faithful.carriedOut c
  obtain ⟨set, note, pending, rest, client, same⟩ | ⟨set, identity?, message, rest, client, same⟩ |
    ⟨set, other, rest, client, same⟩ | ⟨_, same⟩ := turn_cases s c <;> rw [same]
  · rw [client] at all done
    exact faithful.put ⟨begun, all, done⟩
  · rw [client] at all done
    rw [List.map_nil, List.append_nil] at done
    refine faithful.put ⟨begun ++ [.add set identity? message], ?_, done.add set identity? message⟩
    rw [all, List.append_assoc]
    rfl
  · exact faithful.copy client
  · exact faithful

theorem Faithful.run (faithful : s.Faithful prior calls) (schedule : List κ) : (s.run schedule).Faithful prior calls := by
  induction schedule generalizing s with
  | nil => exact faithful
  | cons c rest ih => exact ih (faithful.turn c)

end Faith

section Merging

variable {s : Desk κ ι} {c : κ} {set other : ι} {calls : List (Call ι)}

/-- A client records what it has copied in as many turns of its own, whatever the others do in between. -/
theorem run_pending {pending : List (ι × Note)} {schedule : List κ} (client : s.clients c = ⟨pending, calls⟩)
    (enough : schedule.count c = pending.length) : (s.run schedule).clients c = ⟨[], calls⟩ := by
  induction schedule generalizing s pending with
  | nil =>
    obtain rfl : pending = [] := List.length_eq_zero_iff.mp enough.symm
    exact client
  | cons d rest ih =>
    by_cases own : d = c
    · subst own
      rw [List.count_cons_self] at enough
      obtain ⟨⟨set, note⟩, pending, rfl⟩ := List.exists_cons_of_length_eq_add_one enough.symm
      refine @ih (s.turn d) pending ?_ (by simpa using enough)
      rw [turn_of_pending client, put_clients]
    · rw [List.count_cons_of_ne own] at enough
      exact @ih (s.turn d) pending ((turn_clients_of_ne (Ne.symm own)).trans client) enough

/-- Merging a set ends, also into itself, after one turn for each of the messages that the set had. -/
theorem run_merge (client : s.clients c = ⟨[], .merge set other :: calls⟩) {before after : List κ} (idle : c ∉ before)
    (enough : after.count c = ((s.run before).sets other).size) :
    (s.run (before ++ c :: after)).clients c = ⟨[], calls⟩ := by
  have copied := turn_of_merge ((run_clients_of_not_mem idle).trans client)
  rw [run_append]
  refine run_pending (s := (s.run before).turn c) (by rw [copied, copy_clients]) ?_
  rw [enough, List.length_map, length_copies]

/-- A client that is alone records what it has copied, and nothing else happens. -/
theorem run_alone {notes : List Note} (client : s.clients c = ⟨notes.map (set, ·), calls⟩) :
    (s.run (List.replicate notes.length c)).sets = Function.update s.sets set ((s.sets set).extend notes) := by
  induction notes generalizing s with
  | nil => simp [run]
  | cons note rest ih =>
    have first := turn_of_pending client
    have later := @ih (s.turn c) (by rw [first, put_clients])
    rw [first, put_sets, Function.update_self, Function.update_idem, add_some, extend_extend, ← first] at later
    exact later

/-- Merging without any other client in between records the messages of the other set, and leaves that as it is. -/
theorem run_merge_alone (client : s.clients c = ⟨[], .merge set other :: calls⟩) :
    (s.run (List.replicate (1 + (s.sets other).size) c)).sets =
      Function.update s.sets set ((s.sets set).merge (s.sets other)) := by
  have copied := turn_of_merge client
  have due : (s.turn c).clients c = ⟨(s.sets other).copies.map (set, ·), calls⟩ := by rw [copied, copy_clients]
  have recorded := run_alone due
  rw [length_copies, copied, copy_sets, ← merge_eq, ← copied] at recorded
  rw [Nat.add_comm]
  exact recorded

end Merging

section Ending

/-- The desk after the first turns of an endless schedule. -/
def after (s : Desk κ ι) (schedule : Nat → κ) (n : Nat) : Desk κ ι := s.run ((List.range n).map schedule)

variable {s : Desk κ ι} {c : κ} {schedule : Nat → κ}

theorem after_succ (n : Nat) : s.after schedule (n + 1) = (s.after schedule n).turn (schedule n) := by
  rw [after, List.range_succ, List.map_append, run_append]
  rfl

/-- Until its next turn, a client stays as it is. -/
theorem exists_next_turn (s : Desk κ ι) (again : ∀ n, ∃ m ≥ n, schedule m = c) (n : Nat) :
    ∃ m, (s.after schedule m).clients c = (s.after schedule n).clients c ∧
      s.after schedule (m + 1) = (s.after schedule m).turn c := by
  obtain ⟨m, later, own⟩ := again n
  induction gap : m - n generalizing n with
  | zero =>
    obtain rfl : m = n := by omega
    exact ⟨m, rfl, by rw [after_succ, own]⟩
  | succ k ih =>
    by_cases now : schedule n = c
    · exact ⟨n, rfl, by rw [after_succ, now]⟩
    · obtain ⟨m', same, turn⟩ := ih (n + 1) (by omega) (by omega)
      refine ⟨m', same.trans ?_, turn⟩
      rw [after_succ, turn_clients_of_ne (Ne.symm now)]

theorem exists_recorded (again : ∀ n, ∃ m ≥ n, schedule m = c) {pending : List (ι × Note)} {calls : List (Call ι)}
    {n : Nat} (client : (s.after schedule n).clients c = ⟨pending, calls⟩) :
    ∃ m, (s.after schedule m).clients c = ⟨[], calls⟩ := by
  induction pending generalizing n with
  | nil => exact ⟨n, client⟩
  | cons first pending ih =>
    obtain ⟨m, same, turn⟩ := exists_next_turn s again n
    exact @ih (m + 1) (by rw [turn, turn_of_pending (same.trans client), put_clients])

theorem exists_begun {call : Call ι} {calls : List (Call ι)} (client : s.clients c = ⟨[], call :: calls⟩) :
    ∃ pending, (s.turn c).clients c = ⟨pending, calls⟩ := by
  cases call with
  | add set identity? message => exact ⟨[], by simp [turn, client]⟩
  | merge set other => exact ⟨(s.sets other).copies.map (set, ·), by simp [turn, client]⟩

/-- A client that gets a turn again and again comes to the end of its calls. -/
theorem exists_end (again : ∀ n, ∃ m ≥ n, schedule m = c) : ∃ n, (s.after schedule n).clients c = ⟨[], []⟩ := by
  have ends : ∀ calls pending n, (s.after schedule n).clients c = ⟨pending, calls⟩ →
      ∃ m, (s.after schedule m).clients c = ⟨[], []⟩ := by
    intro calls
    induction calls with
    | nil => exact fun pending n client => exists_recorded again client
    | cons call rest ih =>
      intro pending n client
      obtain ⟨k, recorded⟩ := exists_recorded again client
      obtain ⟨m, same, turn⟩ := exists_next_turn s again k
      obtain ⟨copied, begun⟩ := exists_begun (same.trans recorded)
      exact ih copied (m + 1) (by rw [turn, begun])
  exact ends _ _ 0 rfl

end Ending

/-- However several clients take turns, each set has under each identity what was recorded there, in that order, as a
ledger that is kept in place has it; and each client has carried out what it has begun. Merging a set, also into itself,
takes one turn more than the set had messages. Without others in between it records these, behind those that were there,
and all other sets stay as they are. Clients that get a turn again and again carry out all their calls. -/
theorem logs_faithfully (prior : ι → Diagnostics) (calls : κ → List (Call ι)) :
    (∀ schedule, ((start prior calls).run schedule).Faithful prior calls ∧ ∀ set,
      (∀ identity, (((start prior calls).run schedule).sets set).messagesFor identity =
        (prior set).messagesFor identity ++
          messagesFor ⟨recordedIn set ((start prior calls).run schedule).history⟩ identity) ∧
      (((start prior calls).run schedule).sets set).groups =
        (recordedIn set ((start prior calls).run schedule).history).foldl
          (fun l note => Ledger.record note.identity note.message l) (prior set).groups ∧
      (((start prior calls).run schedule).sets set).Coherent) ∧
    (∀ (s : Desk κ ι) c set other rest, s.clients c = ⟨[], .merge set other :: rest⟩ →
      (∀ before after, c ∉ before → after.count c = ((s.run before).sets other).size →
        (s.run (before ++ c :: after)).clients c = ⟨[], rest⟩) ∧
      (s.run (List.replicate (1 + (s.sets other).size) c)).sets =
        Function.update s.sets set ((s.sets set).merge (s.sets other))) ∧
    (∀ d other : Diagnostics, (d.merge other).groups = Ledger.recordAll d.groups other.groups ∧ ∀ identity,
      (d.merge other).messagesFor identity = d.messagesFor identity ++ other.messagesFor identity) ∧
    ∀ schedule : Nat → κ, ∀ c, (∀ n, ∃ m ≥ n, schedule m = c) → ∃ n,
      ((start prior calls).after schedule n).clients c = ⟨[], []⟩ ∧
      CarryOut c (calls c) (eventsOf c ((start prior calls).after schedule n).history) := by
  have faithful := (start_faithful prior calls).run
  refine ⟨fun schedule => ⟨faithful schedule, fun set => ⟨fun identity => ?_, ?_, coherent _⟩⟩,
    fun s c set other rest client => ⟨fun before after => run_merge client, run_merge_alone client⟩,
    fun d other => ⟨groups_merge d other, messagesFor_merge d other⟩, fun schedule c again => ?_⟩
  · rw [(faithful schedule).recorded, messagesFor_extend]
  · rw [(faithful schedule).recorded, groups_extend]
  · obtain ⟨n, ended⟩ := exists_end (s := start prior calls) again
    obtain ⟨begun, all, done⟩ := (faithful ((List.range n).map schedule)).carriedOut c
    have ended' : (((start prior calls).run ((List.range n).map schedule))).clients c = ⟨[], []⟩ := ended
    rw [ended', List.append_nil] at all
    rw [ended', List.map_nil, List.append_nil, ← all] at done
    exact ⟨n, ended, done⟩

/-- A client that records a message and merges the set into itself, and one that records a message there and merges the
set into another. -/
def twoClients : Bool → List (Call Bool)
  | true => [.add true none "a", .merge true true]
  | false => [.add true (some "s") "b", .merge false true]

theorem twoClients_log :
    let s := (start (fun _ => .empty) twoClients).run [true, false, true, false, true, false, true]
    s.Faithful (fun _ => .empty) twoClients ∧ s.clients true = ⟨[], []⟩ ∧ (s.sets true).messagesFor "" = ["a", "a"] ∧
      (s.sets true).messagesFor "s" = ["b", "b"] ∧ (s.sets false).groups = [("", ["a"])] := by
  intro s
  obtain ⟨always, merging, -, -⟩ := logs_faithfully (fun _ => .empty) twoClients
  refine ⟨(always _).1, ?_, by decide +kernel, by decide +kernel, by decide +kernel⟩
  have begun : ((start (fun _ => .empty) twoClients).run [true, false]).clients true = ⟨[], [.merge true true]⟩ := rfl
  exact (merging _ true true true [] begun).1 [] [false, true, false, true] (by simp) (by decide +kernel)

end Desk

end AccessPolicy.Diagnostics
