import ApiDiscovery.Activity

/-!
# Canned replies

A network that answers from a table.  The replies of an address are used up one
for each request, and the last of them is repeated; an address without replies
cannot be reached.
-/

namespace ApiDiscovery

abbrev Routes := NameTable (List Reply)

namespace Routes

/-- The reply at a position, or the last one behind the end. -/
def replyAt : List Reply → Nat → Option Reply
  | [], _ => none
  | [last], _ => some last
  | first :: _ :: _, 0 => some first
  | _ :: next :: rest, position + 1 => replyAt (next :: rest) position

/-- The network of a table, some requests to the addresses having been made in earlier runs. -/
def network (routes : Routes) (earlier : List String) : Network := fun sent request =>
  let uses := earlier.count request.url + sent.countP fun past => past.url == request.url
  match (routes.get? request.url).bind fun replies => replyAt replies uses with
  | some reply => reply
  | none => { received := .error ("no route for " ++ request.url) }

end Routes

end ApiDiscovery
