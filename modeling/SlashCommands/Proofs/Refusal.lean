import SlashCommands.Proofs.RegistrationOrder

namespace SlashCommands.Proofs.Refusal

open Registration RegistrationOrder

def refusal? (d : Draft) (decl : Declaration) : Option Rejection := (d.register decl).2

def attempts (d : Draft) (decls : List Declaration) : Draft := decls.foldl attempt d

/-- The answers to declarations handed in one after the other: why each of them is refused, if it
is. -/
def answers (d : Draft) : List Declaration → List (Option Rejection)
  | [] => []
  | decl :: decls => refusal? d decl :: answers (attempt d decl) decls

def accepted (d : Draft) : List Declaration → List Declaration
  | [] => []
  | decl :: decls =>
    match refusal? d decl with
    | none => decl :: accepted (attempt d decl) decls
    | some _ => accepted (attempt d decl) decls

variable {d : Draft} {decl : Declaration} {decls later : List Declaration} {r : Rejection}

theorem register_eq : d.register decl = (attempt d decl, refusal? d decl) := rfl

@[simp] theorem attempts_cons : attempts d (decl :: decls) = attempts (attempt d decl) decls := rfl

theorem accepted_cons_of_none (h : refusal? d decl = none) :
    accepted d (decl :: decls) = decl :: accepted (attempt d decl) decls := by
  simp [accepted, h]

theorem accepted_cons_of_some (h : refusal? d decl = some r) :
    accepted d (decl :: decls) = accepted d decls := by
  simp [accepted, h, attempt_of_refused h]

theorem attempts_accepted : attempts d (accepted d decls) = attempts d decls := by
  induction decls generalizing d with
  | nil => rfl
  | cons decl decls ih =>
    cases h : refusal? d decl with
    | none => rw [accepted_cons_of_none h, attempts_cons, attempts_cons, ih]
    | some r => rw [accepted_cons_of_some h, attempts_cons, attempt_of_refused h, ih]

theorem answers_accepted : ∀ answer ∈ answers d (accepted d decls), answer = none := by
  induction decls generalizing d with
  | nil => simp [accepted, answers]
  | cons decl decls ih =>
    cases h : refusal? d decl with
    | none =>
      rw [accepted_cons_of_none h, answers, h]
      exact List.forall_mem_cons.mpr ⟨rfl, ih⟩
    | some r =>
      rw [accepted_cons_of_some h]
      exact ih

theorem answers_append : answers d (decls ++ later) =
    answers d decls ++ answers (attempts d decls) later := by
  induction decls generalizing d with
  | nil => rfl
  | cons decl decls ih =>
    rw [List.cons_append, answers, ih, answers, attempts_cons, List.cons_append]

theorem resolver_attempt : (attempt d decl).resolver = d.resolver := by
  obtain h | ⟨c, -, -, h⟩ := attempt_eq_or d decl <;> rw [h]

theorem commands_attempts :
    (attempts d decls).commands = d.commands ++ commandsOf d.resolver (accepted d decls) := by
  induction decls generalizing d with
  | nil => exact (List.append_nil d.commands).symm
  | cons decl decls ih =>
    rw [attempts_cons, ih, resolver_attempt]
    cases h : refusal? d decl with
    | none =>
      obtain ⟨c, hc, -, hd⟩ := attempt_of_accepted h
      rw [accepted_cons_of_none h, commandsOf_cons hc, hd]
      simp
    | some r => rw [accepted_cons_of_some h, attempt_of_refused h]

theorem reached_attempts (h : Reached d) : Reached (attempts d decls) := by
  induction decls generalizing d with
  | nil => exact h
  | cons decl decls ih => exact ih (.attempt decl h)

theorem registerAll_eq : d.registerAll decls =
    (attempts d (decls.take ((answers d decls).findIdx (·.isSome))),
      (answers d decls).findSome? id) := by
  induction decls generalizing d with
  | nil => rfl
  | cons decl decls ih =>
    cases h : refusal? d decl with
    | none =>
      rw [Draft.registerAll, register_eq, h]
      simp [answers, h, List.findIdx_cons, ih]
    | some r =>
      rw [Draft.registerAll, register_eq, h, attempt_of_refused h]
      simp [answers, h, List.findIdx_cons, attempts]

/-- Declarations handed in one after the other, of which any may be refused, leave the draft that
the accepted ones alone lead to. The keys taken are those of the commands held, each of one command.
To register a list is to hand in the declarations before the first that is refused. -/
theorem refused_leave_no_trace (d : Draft) (decls : List Declaration) :
    attempts d (accepted d decls) = attempts d decls ∧
      (∀ answer ∈ answers d (accepted d decls), answer = none) ∧
      (∀ later, answers d (decls ++ later) =
        answers d decls ++ answers (attempts d (accepted d decls)) later) ∧
      (attempts d decls).commands = d.commands ++ commandsOf d.resolver (accepted d decls) ∧
      (Reached d → ((attempts d decls).commands.map Command.key).Nodup ∧
        (attempts d decls).keys = ((attempts d decls).commands.map Command.key).reverse) ∧
      d.registerAll decls =
        (attempts d (decls.take ((answers d decls).findIdx (·.isSome))),
          (answers d decls).findSome? id) := by
  refine ⟨attempts_accepted, answers_accepted, fun later => ?_, commands_attempts, fun h => ?_,
    registerAll_eq⟩
  · rw [attempts_accepted]
    exact answers_append
  · have hreached : Reached (attempts d decls) := reached_attempts h
    exact ⟨hreached.nodup_keys, hreached.keys_eq⟩

def inert (signature : Signature) : Procedure := ⟨signature, fun _ _ => ⟨.unit, []⟩⟩

/-- Two declarations that pass and, between them, one for each way to be refused. -/
def mixed : List Declaration :=
  let actor : Input := { name := "actor", type := .actor }
  [idle "go", idle " ", { idle "stay" with handler := inert ⟨[], .unit⟩ },
    { idle "stay" with handler := inert ⟨[actor], .integer⟩ },
    { idle "stay" with permission := some (inert ⟨[], .bool⟩) },
    { idle "stay" with handler := inert ⟨[actor, { name := "flag", type := .bool }], .unit⟩ },
    idle "GO", idle "stay"]

theorem refused_leave_no_trace_mixed :
    answers {} mixed = [none, some .emptyName, some (.missingActorInput "stay"),
        some (.invalidHandlerOutput "stay" .integer),
        some (.invalidPermission "stay" (.inputCount 0)),
        some (.unresolvedParameter "stay" "flag" .bool), some (.duplicateCommand "GO"), none] ∧
      attempts {} [idle "go", idle "stay"] = attempts {} mixed ∧
      (attempts {} mixed).keys = ["stay", "go"] ∧
      Draft.registerAll {} mixed = (attempts {} [idle "go"], some .emptyName) := by
  obtain ⟨hsame, -, -, hcommands, hkeys, hall⟩ := refused_leave_no_trace {} mixed
  have haccepted : accepted {} mixed = [idle "go", idle "stay"] := rfl
  rw [haccepted] at hsame hcommands
  refine ⟨rfl, hsame, ?_, hall⟩
  rw [(hkeys (.empty .builtin)).2, hcommands]
  rfl

end SlashCommands.Proofs.Refusal
