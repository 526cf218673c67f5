import SlashCommands.Text.Occurrence
import SlashCommands.Value

namespace SlashCommands

structure Actor where
  id : ActorId
  name : String
  admin : Bool := false
  deriving DecidableEq, Repr

structure Roster where
  actors : List Actor
  ascending : actors.Pairwise (·.id < ·.id)

inductive Lookup
  | found (id : ActorId)
  | ambiguous
  | notFound
  deriving DecidableEq, Repr

def Lookup.found? : Lookup → Option ActorId
  | found id => some id
  | _ => none

namespace Roster

def place (a : Actor) : List Actor → List Actor
  | [] => [a]
  | b :: rest =>
    if a.id < b.id then a :: b :: rest
    else if a.id = b.id then a :: rest
    else b :: place a rest

theorem mem_place {a b : Actor} {actors : List Actor} (h : b ∈ place a actors) :
    b = a ∨ b ∈ actors := by
  induction actors with
  | nil => simpa [place] using h
  | cons c rest ih =>
    simp only [place] at h
    split at h
    · simpa using h
    · split at h
      · obtain h | h := List.mem_cons.1 h
        · exact .inl h
        · exact .inr (List.mem_cons_of_mem _ h)
      · obtain rfl | h := List.mem_cons.1 h
        · exact .inr List.mem_cons_self
        · exact (ih h).imp id (List.mem_cons_of_mem _)

theorem pairwise_place {a : Actor} {actors : List Actor}
    (h : actors.Pairwise (·.id < ·.id)) : (place a actors).Pairwise (·.id < ·.id) := by
  induction actors with
  | nil => simp [place]
  | cons c rest ih =>
    obtain ⟨hc, hr⟩ := List.pairwise_cons.1 h
    simp only [place]
    split
    · rename_i hac
      refine List.pairwise_cons.2 ⟨fun b hb => ?_, h⟩
      obtain rfl | hb := List.mem_cons.1 hb
      · exact hac
      · exact UInt32.lt_trans hac (hc b hb)
    · rename_i hac
      split
      · rename_i heq
        exact List.pairwise_cons.2 ⟨fun b hb => heq ▸ hc b hb, hr⟩
      · rename_i hne
        refine List.pairwise_cons.2 ⟨fun b hb => ?_, ih hr⟩
        obtain rfl | hb := mem_place hb
        · obtain hlt | hlt := UInt32.lt_or_lt_of_ne (Ne.symm hne)
          · exact hlt
          · exact absurd hlt hac
        · exact hc b hb

def empty : Roster := ⟨[], .nil⟩

/-- Connects an actor; one who has the id already is replaced. -/
def connect (r : Roster) (a : Actor) : Roster := ⟨place a r.actors, pairwise_place r.ascending⟩

def disconnect (r : Roster) (id : ActorId) : Roster :=
  ⟨r.actors.filter (·.id != id), r.ascending.filter _⟩

def ofList (actors : List Actor) : Roster := actors.foldl connect empty

def get? (r : Roster) (id : ActorId) : Option Actor := r.actors.find? (·.id == id)

def isConnected (r : Roster) (id : ActorId) : Bool := (r.get? id).isSome

def isAdmin (r : Roster) (id : ActorId) : Bool := (r.get? id).any (·.admin)

def name? (r : Roster) (id : ActorId) : Option String := (r.get? id).map (·.name)

def ids (r : Roster) : List ActorId := r.actors.map (·.id)

def lookupId (r : Roster) (digits : List Char) : Lookup :=
  let n := Decimal.value digits
  if n < UInt32.size && r.isConnected (.ofNat n) then .found (.ofNat n) else .notFound

/-- Goes through actors in order: the first with the lower-cased name wins; else `partials`, the
ids of those whose name contains it, nearest first, have to be one. -/
def lookupName (needle : List Char) (partials : List ActorId) : List Actor → Lookup
  | [] =>
    match partials with
    | [] => .notFound
    | [id] => .found id
    | _ => .ambiguous
  | a :: rest =>
    let name := Text.lower a.name.toList
    if name = needle then .found a.id
    else lookupName needle (if Text.occursIn needle name then a.id :: partials else partials) rest

/-- What a token names: digits are always an id, and the empty token names nobody. -/
def lookup (r : Roster) (token : List Char) : Lookup :=
  if token.isEmpty then .notFound
  else if token.all Char.isDigit then r.lookupId token
  else lookupName (Text.lower token) [] r.actors

end Roster

end SlashCommands
