/-
  Endpoints: what a method on a path asks for.

  Paths are compared segment by segment and in their case. Where a fixed word ends a path, one
  line break may follow it. The endpoints of a path stand in the order of registration, since the
  first one says which method is allowed.
-/
import Weblog.Service.Submission

namespace Weblog

/-- What can be asked for. -/
inductive Endpoint
  | register
  | login
  | showMe
  | updateMe
  | createPost
  | listPosts
  | searchPosts
  | showPost (id : String)
  | updatePost (id : String)
  | deletePost (id : String)
  | createComment (postId : String)
  | listComments (postId : String)
  | showComment (postId id : String)
  | updateComment (postId id : String)
  | deleteComment (postId id : String)
  | createTag
  | listTags
  | showTag (id : String)
  | listTagPosts (id : String)
  | updateTag (id : String)
  | deleteTag (id : String)
deriving DecidableEq, Repr

namespace Endpoint

/-- The segments of a path, the empty one in front of the first slash included. -/
def segments (path : String) : List String :=
  (Text.splitAll '/' path.toList).map String.ofList

/-- Whether a last segment is a fixed word. -/
def isWord (word segment : String) : Bool := segment = word || segment = word ++ "\n"

/-- The routes of a fixed word, if a last segment is that word. -/
def ifWord (word segment : String) (routes : List (String × Endpoint)) :
    List (String × Endpoint) :=
  if isWord word segment then routes else []

/-- The methods and endpoints of a path in order of registration. -/
def ofSegments : List String → List (String × Endpoint)
  | ["", "api", x] =>
    ifWord "posts" x [("POST", .createPost), ("GET", .listPosts)]
      ++ ifWord "tags" x [("POST", .createTag), ("GET", .listTags)]
  | ["", "api", "users", x] =>
    ifWord "register" x [("POST", .register)] ++ ifWord "login" x [("POST", .login)]
      ++ ifWord "me" x [("GET", .showMe), ("PUT", .updateMe)]
  | ["", "api", "posts", x] =>
    ifWord "search" x [("GET", .searchPosts)]
      ++ if x = "" then [] else [("GET", .showPost x), ("PUT", .updatePost x),
        ("DELETE", .deletePost x)]
  | ["", "api", "posts", p, x] =>
    if p = "" then [] else ifWord "comments" x [("POST", .createComment p), ("GET", .listComments p)]
  | ["", "api", "posts", p, "comments", x] =>
    if p = "" ∨ x = "" then [] else [("GET", .showComment p x), ("PUT", .updateComment p x),
      ("DELETE", .deleteComment p x)]
  | ["", "api", "tags", x] =>
    if x = "" then [] else [("GET", .showTag x), ("PUT", .updateTag x), ("DELETE", .deleteTag x)]
  | ["", "api", "tags", g, x] =>
    if g = "" then [] else ifWord "posts" x [("GET", .listTagPosts g)]
  | _ => []

/-- The methods and endpoints of a path. -/
def ofPath (path : String) : List (String × Endpoint) := ofSegments (segments path)

/-- The path without the slashes at its end, if there are any and something stands before
them. -/
def withoutSlashes? (path : String) : Option String :=
  let cs := path.toList
  if path ≠ "/" ∧ cs.getLast? = some '/' then
    some (String.ofList (cs.reverse.dropWhile (· = '/')).reverse)
  else none

/-- What becomes of a request before its endpoint. -/
inductive Routing
  | found (e : Endpoint)
  | redirected (path : String)
  | refused (r : Refusal)
deriving DecidableEq, Repr

/-- Finds the endpoint of a method on a path. A path that is known but for slashes at its end is
redirected. -/
def route (method path : String) : Routing :=
  match ofPath path with
  | (first, e) :: rest =>
    match ((first, e) :: rest).lookup method with
    | some e => .found e
    | none => .refused (.wrongMethod first)
  | [] =>
    match withoutSlashes? path with
    | some shorter => if (ofPath shorter).isEmpty then .refused .noRoute else .redirected shorter
    | none => .refused .noRoute

end Endpoint

end Weblog
