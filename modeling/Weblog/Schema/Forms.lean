/-
  The forms that requests submit, and those that answers are checked against.
-/
import Weblog.Schema.Check

namespace Weblog.Form

/-! ## Fields -/

/-- A text that must be there. -/
def requiredText (name : String) (bounds : Bounds) : Field := ⟨name, .text bounds, true⟩

/-- A text that may be null or missing. -/
def optionalText (name : String) (bounds : Bounds) : Field := ⟨name, .text bounds, false⟩

def optionalList (name : String) : Field := ⟨name, .textList, false⟩

def titleBounds : Bounds := ⟨none, some 255⟩

def tagNameBounds : Bounds := ⟨some 1, some 50⟩

def usernameBounds : Bounds := ⟨some 3, some 50⟩

def passwordBounds : Bounds := ⟨some 8, some 72⟩

def postFields : List Field := [requiredText "title" titleBounds, requiredText "body" .none]

def commentFields : List Field := [requiredText "body" .none]

def tagFields : List Field :=
  [requiredText "name" tagNameBounds, optionalText "description" .none]

def userFields : List Field :=
  [requiredText "username" usernameBounds, ⟨"email", .email, true⟩, optionalText "bio" .none]

/-! ## Submitted forms -/

def commentCreate : Form := ⟨"CommentCreate", commentFields⟩

def commentUpdate : Form := ⟨"CommentUpdate", commentFields⟩

def tagCreate : Form := ⟨"TagCreate", tagFields⟩

def tagUpdate : Form :=
  ⟨"TagUpdate", [optionalText "name" tagNameBounds, optionalText "description" .none]⟩

def postCreate : Form := ⟨"PostCreate", postFields ++ [optionalList "tag_ids"]⟩

def postUpdate : Form :=
  ⟨"PostUpdate", [optionalText "title" titleBounds, optionalText "body" .none,
    optionalList "tag_ids"]⟩

def userCreate : Form := ⟨"UserCreate", userFields ++ [requiredText "password" passwordBounds]⟩

def userLogin : Form :=
  ⟨"UserLogin", [requiredText "username" .none, requiredText "password" .none]⟩

def userUpdate : Form := ⟨"UserUpdate", [optionalText "bio" .none]⟩

def token : Form :=
  ⟨"Token", [requiredText "access_token" .none, requiredText "token_type" .none]⟩

/-- The submitted forms. -/
def all : List Form :=
  [commentCreate, commentUpdate, tagCreate, tagUpdate, postCreate, postUpdate, userCreate,
    userLogin, userUpdate, token]

/-- The form of a name. -/
def ofText? (s : String) : Option Form := all.find? (·.name == s)

/-! ## Forms of answers -/

def postAnswer : Form := ⟨"PostResponse", postFields⟩

def commentAnswer : Form := ⟨"CommentResponse", commentFields⟩

def tagAnswer : Form := ⟨"TagResponse", tagFields⟩

def userAnswer : Form := ⟨"UserResponse", userFields⟩

end Weblog.Form
