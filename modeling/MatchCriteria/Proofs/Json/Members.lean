import Mathlib.Data.List.Nodup
import MatchCriteria.Json.Field

/-!
# Members of objects

A reader of strings sees little of a field: whether there is anything in it, the string, or of
anything else the kind.  In an object no two members of which have the same name, the order of
members does not matter.
-/

namespace MatchCriteria.Json

/-- What a reader of strings sees of a field. -/
inductive Held where
  /-- The field is missing, or null. -/
  | nothing
  /-- The field holds a string. -/
  | text (s : String)
  /-- The field holds something of another kind. -/
  | other (kind : Kind)
  deriving DecidableEq

/-- What a reader of strings sees of the field of a name. -/
def held (members : List (String × Value)) (name : String) : Held :=
  match member? members name with
  | none => .nothing
  | some .null => .nothing
  | some (.string s) => .text s
  | some v => .other v.kind

/-- The reader of strings sees no more of a field than what it is said to see. -/
theorem stringMember_eq (members : List (String × Value)) (name : String) (required : Bool) :
  stringMember members name required
    = match held members name with
      | .nothing => if required then .error (.schema (.missing name)) else .ok none
      | .text s => .ok (some s)
      | .other kind => .error (.schema (.notString name kind))
  := by
  rw [stringMember, held]
  cases member? members name with
  | none => rfl
  | some v => cases v <;> rfl

/-! ### The order of members -/

/-- Where no name is given twice, every member is found under its name. -/
theorem member?_eq_some_iff {members : List (String × Value)}
    (hnames : (members.map Prod.fst).Nodup) (name : String) (v : Value) :
  member? members name = some v ↔ (name, v) ∈ members
  := by
  rw [member?, Option.map_eq_some_iff]
  constructor
  · rintro ⟨⟨name', v⟩, hfind, rfl⟩
    have hname : name' = name := by
      simpa using List.find?_some hfind
    subst hname
    simpa using List.mem_of_find?_eq_some hfind
  · intro hmem
    have hfound : (members.reverse.find? fun m => m.1 = name).isSome = true := by
      rw [List.find?_isSome]
      exact ⟨(name, v), List.mem_reverse.mpr hmem, decide_eq_true rfl⟩
    obtain ⟨m, hm⟩ := Option.isSome_iff_exists.mp hfound
    have hname : m.1 = name := by
      simpa using List.find?_some hm
    have hmem' : m ∈ members := by
      simpa using List.mem_of_find?_eq_some hm
    obtain rfl := List.inj_on_of_nodup_map hnames hmem' hmem hname
    exact ⟨_, hm, rfl⟩

/-- Where no name is given twice, members are found in whatever order they stand. -/
theorem member?_perm {members members' : List (String × Value)} (hperm : members.Perm members')
    (hnames : (members.map Prod.fst).Nodup) (name : String) :
  member? members name = member? members' name
  := by
  have hnames' : (members'.map Prod.fst).Nodup := (hperm.map Prod.fst).nodup hnames
  apply Option.ext
  intro v
  rw [member?_eq_some_iff hnames, member?_eq_some_iff hnames', hperm.mem_iff]

theorem held_perm {members members' : List (String × Value)} (hperm : members.Perm members')
    (hnames : (members.map Prod.fst).Nodup) (name : String) :
  held members name = held members' name
  := by
  rw [held, held, member?_perm hperm hnames]

end MatchCriteria.Json
