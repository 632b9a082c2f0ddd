/-
  The four kinds of records, their columns and the columns whose presence is required.
-/

namespace Weblog

/-- The kinds of records. -/
inductive Kind
  | user
  | post
  | comment
  | tag
deriving DecidableEq, Repr

/-- The columns of all kinds. -/
inductive Column
  | id
  | username
  | email
  | passwordHash
  | bio
  | isActive
  | lastLogin
  | userId
  | postId
  | title
  | body
  | name
  | description
  | createdAt
  | updatedAt
deriving DecidableEq, Repr

/-- The relations between records, each named from one of its sides. -/
inductive Relation
  | posts
  | comments
  | tags
  | user
  | post
deriving DecidableEq, Repr

/-- The name of a column. -/
def Column.text : Column → String
  | .id => "id"
  | .username => "username"
  | .email => "email"
  | .passwordHash => "password_hash"
  | .bio => "bio"
  | .isActive => "is_active"
  | .lastLogin => "last_login"
  | .userId => "user_id"
  | .postId => "post_id"
  | .title => "title"
  | .body => "body"
  | .name => "name"
  | .description => "description"
  | .createdAt => "created_at"
  | .updatedAt => "updated_at"

/-- The name of a relation. -/
def Relation.text : Relation → String
  | .posts => "posts"
  | .comments => "comments"
  | .tags => "tags"
  | .user => "user"
  | .post => "post"

namespace Relation

/-- Whether a relation leads to any number of records. -/
def isMany : Relation → Bool
  | .posts | .comments | .tags => true
  | .user | .post => false

/-- The column that names the one record a relation leads to. -/
def column? : Relation → Option Column
  | .user => some .userId
  | .post => some .postId
  | _ => none

/-- The kind that a relation leads to. -/
def target : Relation → Kind
  | .posts | .post => .post
  | .comments => .comment
  | .tags => .tag
  | .user => .user

end Relation

namespace Kind

/-- The name of a kind. -/
def text : Kind → String
  | .user => "User"
  | .post => "Post"
  | .comment => "Comment"
  | .tag => "Tag"

/-- The name of a kind's table. -/
def table : Kind → String
  | .user => "users"
  | .post => "posts"
  | .comment => "comments"
  | .tag => "tags"

/-- The columns in table order. -/
def columns : Kind → List Column
  | .user => [.id, .username, .email, .passwordHash, .bio, .createdAt, .lastLogin, .isActive]
  | .post => [.id, .userId, .title, .body, .createdAt, .updatedAt]
  | .comment => [.id, .postId, .userId, .body, .createdAt, .updatedAt]
  | .tag => [.id, .name, .description, .userId, .createdAt, .updatedAt]

/-- The relations that start at a kind. -/
def relations : Kind → List Relation
  | .user => [.posts, .comments]
  | .post => [.user, .comments, .tags]
  | .comment => [.post, .user]
  | .tag => [.posts]

/-- The same relation, named from its other side. -/
def inverse : Kind → Relation → Relation
  | .user, _ => .user
  | .post, .comments => .post
  | .post, _ => .posts
  | .comment, _ => .comments
  | .tag, _ => .tags

/-- Attributes that are computed and cannot be set. -/
def computed : Kind → List String
  | .post => ["tag_ids", "comments_count"]
  | _ => []

/-- The columns that must be present, in the order of complaints. -/
def required : Kind → List Column
  | .user => []
  | .post => [.title, .body]
  | .comment => [.body]
  | .tag => [.name]

/-- Whether records of the kind can be asked for their validity. -/
def isValidated : Kind → Bool
  | .user => false
  | _ => true

def all : List Kind := [.user, .post, .comment, .tag]

/-- The kind of a name. -/
def ofText? (s : String) : Option Kind := all.find? (·.text == s)

/-- The column of a name. -/
def column? (k : Kind) (s : String) : Option Column := k.columns.find? (·.text == s)

/-- The relation of a name. -/
def relation? (k : Kind) (s : String) : Option Relation := k.relations.find? (·.text == s)

end Kind

end Weblog
