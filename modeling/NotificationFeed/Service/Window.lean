/-!
# The window of a page

A page of a feed is asked for by its size and its number, both 32-bit
integers; anything but a positive one stands for the default. The window says
how many notifications the page holds and how many come before it.
-/

namespace NotificationFeed

namespace Service

/-- The slice of a feed that one page shows. -/
structure Window where
  limit : Int
  offset : Int
  deriving DecidableEq, Repr, Inhabited

namespace Window

/-- The size of a page when none is asked for. -/
def defaultLimit : Int := 10

/-- The page shown when none is asked for. -/
def defaultPage : Int := 1

/-- The window of page `page` when a page holds `limit` notifications. -/
def ofPage (limit page : Int32) : Window :=
  let limit := if limit.toInt ≤ 0 then defaultLimit else limit.toInt
  let page := if page.toInt ≤ 0 then defaultPage else page.toInt
  { limit, offset := (page - 1) * limit }

end Window

end Service

end NotificationFeed
