import MediaRelay.Text.Basic

/-!
# Methods

The nine request methods that the relay serves, in the order in which it advertises them.
-/

namespace MediaRelay

inductive Method where
  | options
  | describe
  | announce
  | setup
  | play
  | pause
  | record
  | teardown
  | getParameter
  deriving DecidableEq, Repr

namespace Method

/-- The methods in advertised order. -/
def all : List Method :=
  [options, describe, announce, setup, play, pause, record, teardown, getParameter]

/-- The word that names the method in a request line. -/
def token : Method → Text
  | options => "OPTIONS".toList
  | describe => "DESCRIBE".toList
  | announce => "ANNOUNCE".toList
  | setup => "SETUP".toList
  | play => "PLAY".toList
  | pause => "PAUSE".toList
  | record => "RECORD".toList
  | teardown => "TEARDOWN".toList
  | getParameter => "GET_PARAMETER".toList

/-- The method that a word names; case matters. -/
def ofToken? (word : Text) : Option Method := all.find? fun method => method.token = word

theorem mem_all (method : Method) : method ∈ all := by cases method <;> decide

@[simp] theorem ofToken?_token (method : Method) : ofToken? method.token = some method := by
  cases method <;> rfl

theorem ofToken?_eq_some_iff {word : Text} {method : Method} :
    ofToken? word = some method ↔ word = method.token := by
  constructor
  · intro found
    simpa [eq_comm] using List.find?_some found
  · rintro rfl
    exact ofToken?_token method

end Method

end MediaRelay
