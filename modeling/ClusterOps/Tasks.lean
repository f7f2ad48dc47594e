/-
Trees of tasks. A leaf is a piece of work; a group runs its children one after
the other or all at once. What a leaf is does not matter here: it has a name,
and the work behind it is given to `Tasks.run`.
-/

namespace ClusterOps

/-- A tree of tasks. -/
inductive Tasks (α : Type) where
  | leaf (a : α)
  | group (parallel : Bool) (children : List (Tasks α))
deriving Repr, Inhabited

namespace Tasks

variable {α : Type}

/-- How many children a task has. -/
def size : Tasks α → Nat
  | .leaf _ => 0
  | .group _ ts => ts.length

/-- The group with more children at its end. -/
def append : Tasks α → List (Tasks α) → Tasks α
  | .leaf a, _ => .leaf a
  | .group p ts, more => .group p (ts ++ more)

/-- The wording for a group whose children are described. -/
def describeGroup (parallel : Bool) (children : List String) : String :=
  let inside := "\x7b " ++ ", ".intercalate children ++ " \x7d"
  match children with
  | [] => "no tasks"
  | [_] => "1 task: " ++ inside
  | _ =>
    toString children.length ++ (if parallel then " parallel" else " sequential") ++ " tasks: "
      ++ inside

mutual

/-- The name of a leaf, or the mode of a group with its children, as in
`2 sequential tasks: (a, b)` with braces. -/
def describe (name : α → String) : Tasks α → String
  | .leaf a => name a
  | .group p ts => describeGroup p (describeAll name ts)

/-- The descriptions of some tasks. -/
def describeAll (name : α → String) : List (Tasks α) → List String
  | [] => []
  | t :: ts => describe name t :: describeAll name ts

end

mutual

/-- The leaves from left to right. -/
def leaves : Tasks α → List α
  | .leaf a => [a]
  | .group _ ts => leavesAll ts

/-- The leaves of some tasks. -/
def leavesAll : List (Tasks α) → List α
  | [] => []
  | t :: ts => leaves t ++ leavesAll ts

end

mutual

/-- The task with its leaves numbered from left to right, from a number on. -/
def number (n : Nat) : Tasks α → Tasks (Nat × α)
  | .leaf a => .leaf (n, a)
  | .group p ts => .group p (numberAll n ts)

/-- Some tasks with their leaves numbered. -/
def numberAll (n : Nat) : List (Tasks α) → List (Tasks (Nat × α))
  | [] => []
  | t :: ts => number n t :: numberAll (n + (leaves t).length) ts

end

end Tasks

end ClusterOps
