import ClusterOps.Outcome

/-
Listing page by page. A page call is given a token, the empty text at first, and
answers with items and the token of the next page; a token that counts as false
marks the last page. The items come in the order of the pages. A failure of a
page call is the failure of the listing, and what was listed before is dropped.

A provider that always has a next page would never end a listing, so the number
of pages is limited. A listing whose last page is at the limit succeeds.
-/

namespace ClusterOps.Listing

variable {α σ : Type}

/-- A page: its items and the token of the next page. -/
structure Page (α : Type) where
  items : List α
  next : Value
deriving Repr, Inhabited

/-- How many pages a listing may have. -/
def limit : Nat := 10000

/-- The token of the first page. -/
def firstToken : Value := .text ""

/-- The items of pages of which the last comes first. -/
def joined (pages : List (List α)) : List α := pages.reverse.flatten

/-- Asks for the page of a token and for those after it, at most `left` of them; `pages` are those
that have come, the last one first. -/
def follow (ask : σ → Value → Outcome (Page α) × σ) :
    Nat → Value → List (List α) → σ → Outcome (List α) × σ
  | 0, _, _, s => (.failed (.endlessListing limit), s)
  | left + 1, token, pages, s =>
    match ask s token with
    | (.done p, s) =>
      if p.next.isTruthy then follow ask left p.next (p.items :: pages) s
      else (.done (joined (p.items :: pages)), s)
    | (.failed c, s) => (.failed c, s)
    | (.cancelled, s) => (.cancelled, s)
    | (.hung, s) => (.hung, s)

/-- The whole listing. -/
def paginate (ask : σ → Value → Outcome (Page α) × σ) (s : σ) : Outcome (List α) × σ :=
  follow ask limit firstToken [] s

/-- The page that came last stands last. -/
@[simp] theorem joined_cons (p : List α) (pages : List (List α)) :
    joined (p :: pages) = joined pages ++ p := by
  simp [joined]

end ClusterOps.Listing
