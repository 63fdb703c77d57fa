/-! What is known of built-in types without calling anything: their names, what they derive from, and
their members with the numbers of arguments that these take. -/
namespace SelectionGen.Evaluation

/-- How many arguments a built-in function takes, and in which words it refuses others. `slot` and `spaced`
functions belong to operators; `plain` ones take a fixed number of arguments, none or one; `counted` and
`parsed` ones count within bounds; `free` ones look at their arguments themselves; `data` is no function. -/
inductive Arity
  | slot (count : Nat)
  | spaced (least most : Nat)
  | plain (count : Nat)
  | counted (least most : Nat)
  | parsed (least most : Nat)
  | free
  | data
deriving DecidableEq, Repr

namespace Arity

/-- A number of arguments in words. -/
def arguments (count : Nat) : String :=
  toString count ++ (if count = 1 then " argument" else " arguments")

/-- Why a number of arguments is out of bounds, in the words of functions that count. -/
def outOfBounds (opening : String) (least most given : Nat) : String :=
  let bound := if least = most then arguments least
    else if given < least then "at least " ++ arguments least
    else "at most " ++ arguments most
  opening ++ " expected " ++ bound ++ ", got " ++ toString given

/-- Why a function refuses a number of arguments, if it does. -/
def refusal? (arity : Arity) (typeName name : String) (given : Nat) : Option String :=
  match arity with
  | slot count => if given = count then none
    else some ("expected " ++ arguments count ++ ", got " ++ toString given)
  | spaced least most => if least ≤ given ∧ given ≤ most then none
    else some (outOfBounds "" least most given)
  | plain count => if given = count then none
    else
      let takes := if count = 0 then "no arguments" else "exactly one argument"
      some (typeName ++ "." ++ name ++ "() takes " ++ takes ++ " (" ++ toString given ++ " given)")
  | counted least most => if least ≤ given ∧ given ≤ most then none
    else some (outOfBounds name least most given)
  | parsed least most => if least ≤ given ∧ given ≤ most then none
    else
      let bound := if given < least then "at least " ++ arguments least else "at most " ++ arguments most
      some (name ++ "() takes " ++ bound ++ " (" ++ toString given ++ " given)")
  | free | data => none

end Arity

/-- A built-in type: its name, the one that it derives from, and its own members. -/
structure BuiltinType where
  name : String
  base : String
  members : List (String × Arity)
deriving DecidableEq, Repr

namespace BuiltinType

/-! Types of single values: what all values share, what types are, truth, and what stands for no value. -/

/-- The types of single values. -/
def plainTypes : List BuiltinType := [
  ⟨"object", "", [
    ("__new__", .free), ("__repr__", .slot 0), ("__hash__", .slot 0), ("__str__", .slot 0),
    ("__getattribute__", .slot 1), ("__setattr__", .spaced 2 2), ("__delattr__", .slot 1),
    ("__lt__", .slot 1), ("__le__", .slot 1), ("__eq__", .slot 1), ("__ne__", .slot 1),
    ("__gt__", .slot 1), ("__ge__", .slot 1), ("__init__", .free), ("__reduce_ex__", .plain 1),
    ("__reduce__", .plain 0), ("__getstate__", .plain 0), ("__subclasshook__", .free),
    ("__init_subclass__", .plain 0), ("__format__", .plain 1), ("__sizeof__", .plain 0),
    ("__dir__", .plain 0), ("__class__", .data), ("__doc__", .data)]⟩,
  ⟨"type", "object", [
    ("__new__", .free), ("__repr__", .slot 0), ("__call__", .free), ("__getattribute__", .slot 1),
    ("__setattr__", .spaced 2 2), ("__delattr__", .slot 1), ("__init__", .free),
    ("__or__", .slot 1), ("__ror__", .slot 1), ("mro", .plain 0), ("__subclasses__", .plain 0),
    ("__prepare__", .free), ("__instancecheck__", .plain 1), ("__subclasscheck__", .plain 1),
    ("__dir__", .plain 0), ("__sizeof__", .plain 0), ("__basicsize__", .data),
    ("__itemsize__", .data), ("__flags__", .data), ("__weakrefoffset__", .data),
    ("__base__", .data), ("__dictoffset__", .data), ("__mro__", .data), ("__name__", .data),
    ("__qualname__", .data), ("__bases__", .data), ("__module__", .data),
    ("__abstractmethods__", .data), ("__dict__", .data), ("__doc__", .data),
    ("__text_signature__", .data), ("__annotations__", .data)]⟩,
  ⟨"NoneType", "object", [
    ("__new__", .free), ("__repr__", .slot 0), ("__bool__", .slot 0), ("__doc__", .data)]⟩,
  ⟨"NotImplementedType", "object", [
    ("__new__", .free), ("__repr__", .slot 0), ("__bool__", .slot 0), ("__reduce__", .plain 0),
    ("__doc__", .data)]⟩,
  ⟨"ellipsis", "object", [
    ("__new__", .free), ("__repr__", .slot 0), ("__getattribute__", .slot 1),
    ("__reduce__", .plain 0), ("__doc__", .data)]⟩]

/-! Types of texts and of bytes. -/

/-- The types of texts and bytes. -/
def textTypes : List BuiltinType := [
  ⟨"str", "object", [
    ("__new__", .free), ("__repr__", .slot 0), ("__hash__", .slot 0), ("__str__", .slot 0),
    ("__getattribute__", .slot 1), ("__lt__", .slot 1), ("__le__", .slot 1), ("__eq__", .slot 1),
    ("__ne__", .slot 1), ("__gt__", .slot 1), ("__ge__", .slot 1), ("__iter__", .slot 0),
    ("__mod__", .slot 1), ("__rmod__", .slot 1), ("__len__", .slot 0), ("__getitem__", .slot 1),
    ("__add__", .slot 1), ("__mul__", .spaced 1 1), ("__rmul__", .spaced 1 1),
    ("__contains__", .slot 1), ("encode", .parsed 0 2), ("replace", .counted 2 3),
    ("split", .parsed 0 2), ("rsplit", .parsed 0 2), ("join", .plain 1), ("capitalize", .plain 0),
    ("casefold", .plain 0), ("title", .plain 0), ("center", .counted 1 2), ("count", .parsed 1 3),
    ("expandtabs", .parsed 0 1), ("find", .parsed 1 3), ("partition", .plain 1),
    ("index", .parsed 1 3), ("ljust", .counted 1 2), ("lower", .plain 0), ("lstrip", .counted 0 1),
    ("rfind", .parsed 1 3), ("rindex", .parsed 1 3), ("rjust", .counted 1 2),
    ("rstrip", .counted 0 1), ("rpartition", .plain 1), ("splitlines", .parsed 0 1),
    ("strip", .counted 0 1), ("swapcase", .plain 0), ("translate", .plain 1), ("upper", .plain 0),
    ("startswith", .parsed 1 3), ("endswith", .parsed 1 3), ("removeprefix", .plain 1),
    ("removesuffix", .plain 1), ("isascii", .plain 0), ("islower", .plain 0), ("isupper", .plain 0),
    ("istitle", .plain 0), ("isspace", .plain 0), ("isdecimal", .plain 0), ("isdigit", .plain 0),
    ("isnumeric", .plain 0), ("isalpha", .plain 0), ("isalnum", .plain 0),
    ("isidentifier", .plain 0), ("isprintable", .plain 0), ("zfill", .plain 1), ("format", .free),
    ("format_map", .plain 1), ("__format__", .plain 1), ("maketrans", .counted 1 3),
    ("__sizeof__", .plain 0), ("__getnewargs__", .plain 0), ("__doc__", .data)]⟩,
  ⟨"bytes", "object", [
    ("__new__", .free), ("__repr__", .slot 0), ("__hash__", .slot 0), ("__str__", .slot 0),
    ("__getattribute__", .slot 1), ("__lt__", .slot 1), ("__le__", .slot 1), ("__eq__", .slot 1),
    ("__ne__", .slot 1), ("__gt__", .slot 1), ("__ge__", .slot 1), ("__iter__", .slot 0),
    ("__mod__", .slot 1), ("__rmod__", .slot 1), ("__len__", .slot 0), ("__getitem__", .slot 1),
    ("__add__", .slot 1), ("__mul__", .spaced 1 1), ("__rmul__", .spaced 1 1),
    ("__contains__", .slot 1), ("__getnewargs__", .plain 0), ("__bytes__", .plain 0),
    ("capitalize", .plain 0), ("center", .counted 1 2), ("count", .parsed 1 3),
    ("decode", .parsed 0 2), ("endswith", .parsed 1 3), ("expandtabs", .parsed 0 1),
    ("find", .parsed 1 3), ("fromhex", .plain 1), ("hex", .parsed 0 2), ("index", .parsed 1 3),
    ("isalnum", .plain 0), ("isalpha", .plain 0), ("isascii", .plain 0), ("isdigit", .plain 0),
    ("islower", .plain 0), ("isspace", .plain 0), ("istitle", .plain 0), ("isupper", .plain 0),
    ("join", .plain 1), ("ljust", .counted 1 2), ("lower", .plain 0), ("lstrip", .counted 0 1),
    ("maketrans", .counted 2 2), ("partition", .plain 1), ("replace", .counted 2 3),
    ("removeprefix", .plain 1), ("removesuffix", .plain 1), ("rfind", .parsed 1 3),
    ("rindex", .parsed 1 3), ("rjust", .counted 1 2), ("rpartition", .plain 1),
    ("rsplit", .parsed 0 2), ("rstrip", .counted 0 1), ("split", .parsed 0 2),
    ("splitlines", .parsed 0 1), ("startswith", .parsed 1 3), ("strip", .counted 0 1),
    ("swapcase", .plain 0), ("title", .plain 0), ("translate", .parsed 1 2), ("upper", .plain 0),
    ("zfill", .plain 1), ("__doc__", .data)]⟩,
  ⟨"bytearray", "object", [
    ("__new__", .free), ("__repr__", .slot 0), ("__str__", .slot 0), ("__getattribute__", .slot 1),
    ("__lt__", .slot 1), ("__le__", .slot 1), ("__eq__", .slot 1), ("__ne__", .slot 1),
    ("__gt__", .slot 1), ("__ge__", .slot 1), ("__iter__", .slot 0), ("__init__", .free),
    ("__mod__", .slot 1), ("__rmod__", .slot 1), ("__len__", .slot 0), ("__getitem__", .slot 1),
    ("__setitem__", .spaced 2 2), ("__delitem__", .slot 1), ("__add__", .slot 1),
    ("__mul__", .spaced 1 1), ("__rmul__", .spaced 1 1), ("__contains__", .slot 1),
    ("__iadd__", .slot 1), ("__imul__", .spaced 1 1), ("__alloc__", .plain 0),
    ("__reduce__", .plain 0), ("__reduce_ex__", .counted 0 1), ("__sizeof__", .plain 0),
    ("append", .plain 1), ("capitalize", .plain 0), ("center", .counted 1 2), ("clear", .plain 0),
    ("copy", .plain 0), ("count", .parsed 1 3), ("decode", .parsed 0 2), ("endswith", .parsed 1 3),
    ("expandtabs", .parsed 0 1), ("extend", .plain 1), ("find", .parsed 1 3), ("fromhex", .plain 1),
    ("hex", .parsed 0 2), ("index", .parsed 1 3), ("insert", .counted 2 2), ("isalnum", .plain 0),
    ("isalpha", .plain 0), ("isascii", .plain 0), ("isdigit", .plain 0), ("islower", .plain 0),
    ("isspace", .plain 0), ("istitle", .plain 0), ("isupper", .plain 0), ("join", .plain 1),
    ("ljust", .counted 1 2), ("lower", .plain 0), ("lstrip", .counted 0 1),
    ("maketrans", .counted 2 2), ("partition", .plain 1), ("pop", .counted 0 1),
    ("remove", .plain 1), ("replace", .counted 2 3), ("removeprefix", .plain 1),
    ("removesuffix", .plain 1), ("reverse", .plain 0), ("rfind", .parsed 1 3),
    ("rindex", .parsed 1 3), ("rjust", .counted 1 2), ("rpartition", .plain 1),
    ("rsplit", .parsed 0 2), ("rstrip", .counted 0 1), ("split", .parsed 0 2),
    ("splitlines", .parsed 0 1), ("startswith", .parsed 1 3), ("strip", .counted 0 1),
    ("swapcase", .plain 0), ("title", .plain 0), ("translate", .parsed 1 2), ("upper", .plain 0),
    ("zfill", .plain 1), ("__doc__", .data), ("__hash__", .data)]⟩]

/-! Types of numbers. -/

/-- The types of numbers. -/
def numberTypes : List BuiltinType := [
  ⟨"int", "object", [
    ("__new__", .free), ("__repr__", .slot 0), ("__hash__", .slot 0), ("__getattribute__", .slot 1),
    ("__lt__", .slot 1), ("__le__", .slot 1), ("__eq__", .slot 1), ("__ne__", .slot 1),
    ("__gt__", .slot 1), ("__ge__", .slot 1), ("__add__", .slot 1), ("__radd__", .slot 1),
    ("__sub__", .slot 1), ("__rsub__", .slot 1), ("__mul__", .slot 1), ("__rmul__", .slot 1),
    ("__mod__", .slot 1), ("__rmod__", .slot 1), ("__divmod__", .slot 1), ("__rdivmod__", .slot 1),
    ("__pow__", .spaced 1 2), ("__rpow__", .spaced 1 2), ("__neg__", .slot 0), ("__pos__", .slot 0),
    ("__abs__", .slot 0), ("__bool__", .slot 0), ("__invert__", .slot 0), ("__lshift__", .slot 1),
    ("__rlshift__", .slot 1), ("__rshift__", .slot 1), ("__rrshift__", .slot 1),
    ("__and__", .slot 1), ("__rand__", .slot 1), ("__xor__", .slot 1), ("__rxor__", .slot 1),
    ("__or__", .slot 1), ("__ror__", .slot 1), ("__int__", .slot 0), ("__float__", .slot 0),
    ("__floordiv__", .slot 1), ("__rfloordiv__", .slot 1), ("__truediv__", .slot 1),
    ("__rtruediv__", .slot 1), ("__index__", .slot 0), ("conjugate", .plain 0),
    ("bit_length", .plain 0), ("bit_count", .plain 0), ("to_bytes", .parsed 0 3),
    ("from_bytes", .parsed 0 3), ("as_integer_ratio", .plain 0), ("__trunc__", .plain 0),
    ("__floor__", .plain 0), ("__ceil__", .plain 0), ("__round__", .counted 0 1),
    ("__getnewargs__", .plain 0), ("__format__", .plain 1), ("__sizeof__", .plain 0),
    ("real", .data), ("imag", .data), ("numerator", .data), ("denominator", .data),
    ("__doc__", .data)]⟩,
  ⟨"bool", "int", [
    ("__new__", .free), ("__repr__", .slot 0), ("__and__", .slot 1), ("__rand__", .slot 1),
    ("__xor__", .slot 1), ("__rxor__", .slot 1), ("__or__", .slot 1), ("__ror__", .slot 1),
    ("__doc__", .data)]⟩,
  ⟨"float", "object", [
    ("__new__", .free), ("__repr__", .slot 0), ("__hash__", .slot 0), ("__getattribute__", .slot 1),
    ("__lt__", .slot 1), ("__le__", .slot 1), ("__eq__", .slot 1), ("__ne__", .slot 1),
    ("__gt__", .slot 1), ("__ge__", .slot 1), ("__add__", .slot 1), ("__radd__", .slot 1),
    ("__sub__", .slot 1), ("__rsub__", .slot 1), ("__mul__", .slot 1), ("__rmul__", .slot 1),
    ("__mod__", .slot 1), ("__rmod__", .slot 1), ("__divmod__", .slot 1), ("__rdivmod__", .slot 1),
    ("__pow__", .spaced 1 2), ("__rpow__", .spaced 1 2), ("__neg__", .slot 0), ("__pos__", .slot 0),
    ("__abs__", .slot 0), ("__bool__", .slot 0), ("__int__", .slot 0), ("__float__", .slot 0),
    ("__floordiv__", .slot 1), ("__rfloordiv__", .slot 1), ("__truediv__", .slot 1),
    ("__rtruediv__", .slot 1), ("conjugate", .plain 0), ("__trunc__", .plain 0),
    ("__floor__", .plain 0), ("__ceil__", .plain 0), ("__round__", .counted 0 1),
    ("as_integer_ratio", .plain 0), ("fromhex", .plain 1), ("hex", .plain 0),
    ("is_integer", .plain 0), ("__getnewargs__", .plain 0), ("__getformat__", .plain 1),
    ("__format__", .plain 1), ("real", .data), ("imag", .data), ("__doc__", .data)]⟩,
  ⟨"complex", "object", [
    ("__new__", .free), ("__repr__", .slot 0), ("__hash__", .slot 0), ("__getattribute__", .slot 1),
    ("__lt__", .slot 1), ("__le__", .slot 1), ("__eq__", .slot 1), ("__ne__", .slot 1),
    ("__gt__", .slot 1), ("__ge__", .slot 1), ("__add__", .slot 1), ("__radd__", .slot 1),
    ("__sub__", .slot 1), ("__rsub__", .slot 1), ("__mul__", .slot 1), ("__rmul__", .slot 1),
    ("__pow__", .spaced 1 2), ("__rpow__", .spaced 1 2), ("__neg__", .slot 0), ("__pos__", .slot 0),
    ("__abs__", .slot 0), ("__bool__", .slot 0), ("__truediv__", .slot 1),
    ("__rtruediv__", .slot 1), ("conjugate", .plain 0), ("__complex__", .plain 0),
    ("__getnewargs__", .plain 0), ("__format__", .plain 1), ("real", .data), ("imag", .data),
    ("__doc__", .data)]⟩]

/-! Types of collections and of views of them. -/

/-- The types of collections. -/
def collectionTypes : List BuiltinType := [
  ⟨"list", "object", [
    ("__new__", .free), ("__repr__", .slot 0), ("__hash__", .data), ("__getattribute__", .slot 1),
    ("__lt__", .slot 1), ("__le__", .slot 1), ("__eq__", .slot 1), ("__ne__", .slot 1),
    ("__gt__", .slot 1), ("__ge__", .slot 1), ("__iter__", .slot 0), ("__init__", .free),
    ("__len__", .slot 0), ("__getitem__", .plain 1), ("__setitem__", .spaced 2 2),
    ("__delitem__", .slot 1), ("__add__", .slot 1), ("__mul__", .spaced 1 1),
    ("__rmul__", .spaced 1 1), ("__contains__", .slot 1), ("__iadd__", .slot 1),
    ("__imul__", .spaced 1 1), ("__reversed__", .plain 0), ("__sizeof__", .plain 0),
    ("clear", .plain 0), ("copy", .plain 0), ("append", .plain 1), ("insert", .counted 2 2),
    ("extend", .plain 1), ("pop", .counted 0 1), ("remove", .plain 1), ("index", .counted 1 3),
    ("count", .plain 1), ("reverse", .plain 0), ("sort", .parsed 0 2),
    ("__class_getitem__", .plain 1), ("__doc__", .data)]⟩,
  ⟨"tuple", "object", [
    ("__new__", .free), ("__repr__", .slot 0), ("__hash__", .slot 0), ("__getattribute__", .slot 1),
    ("__lt__", .slot 1), ("__le__", .slot 1), ("__eq__", .slot 1), ("__ne__", .slot 1),
    ("__gt__", .slot 1), ("__ge__", .slot 1), ("__iter__", .slot 0), ("__len__", .slot 0),
    ("__getitem__", .slot 1), ("__add__", .slot 1), ("__mul__", .spaced 1 1),
    ("__rmul__", .spaced 1 1), ("__contains__", .slot 1), ("__getnewargs__", .plain 0),
    ("index", .counted 1 3), ("count", .plain 1), ("__class_getitem__", .plain 1),
    ("__doc__", .data)]⟩,
  ⟨"dict", "object", [
    ("__new__", .free), ("__repr__", .slot 0), ("__hash__", .data), ("__getattribute__", .slot 1),
    ("__lt__", .slot 1), ("__le__", .slot 1), ("__eq__", .slot 1), ("__ne__", .slot 1),
    ("__gt__", .slot 1), ("__ge__", .slot 1), ("__iter__", .slot 0), ("__init__", .free),
    ("__or__", .slot 1), ("__ror__", .slot 1), ("__ior__", .slot 1), ("__len__", .slot 0),
    ("__getitem__", .plain 1), ("__setitem__", .spaced 2 2), ("__delitem__", .slot 1),
    ("__contains__", .plain 1), ("__sizeof__", .plain 0), ("get", .counted 1 2),
    ("setdefault", .counted 1 2), ("pop", .counted 1 2), ("popitem", .plain 0), ("keys", .plain 0),
    ("items", .plain 0), ("values", .plain 0), ("update", .counted 0 1), ("fromkeys", .counted 1 2),
    ("clear", .plain 0), ("copy", .plain 0), ("__reversed__", .plain 0),
    ("__class_getitem__", .plain 1), ("__doc__", .data)]⟩,
  ⟨"set", "object", [
    ("__new__", .free), ("__repr__", .slot 0), ("__hash__", .data), ("__getattribute__", .slot 1),
    ("__lt__", .slot 1), ("__le__", .slot 1), ("__eq__", .slot 1), ("__ne__", .slot 1),
    ("__gt__", .slot 1), ("__ge__", .slot 1), ("__iter__", .slot 0), ("__init__", .free),
    ("__sub__", .slot 1), ("__rsub__", .slot 1), ("__and__", .slot 1), ("__rand__", .slot 1),
    ("__xor__", .slot 1), ("__rxor__", .slot 1), ("__or__", .slot 1), ("__ror__", .slot 1),
    ("__isub__", .slot 1), ("__iand__", .slot 1), ("__ixor__", .slot 1), ("__ior__", .slot 1),
    ("__len__", .slot 0), ("__contains__", .plain 1), ("add", .plain 1), ("clear", .plain 0),
    ("copy", .plain 0), ("discard", .plain 1), ("difference", .free), ("difference_update", .free),
    ("intersection", .free), ("intersection_update", .free), ("isdisjoint", .plain 1),
    ("issubset", .plain 1), ("issuperset", .plain 1), ("pop", .plain 0), ("__reduce__", .plain 0),
    ("remove", .plain 1), ("__sizeof__", .plain 0), ("symmetric_difference", .plain 1),
    ("symmetric_difference_update", .plain 1), ("union", .free), ("update", .free),
    ("__class_getitem__", .plain 1), ("__doc__", .data)]⟩,
  ⟨"frozenset", "object", [
    ("__new__", .free), ("__repr__", .slot 0), ("__hash__", .slot 0), ("__getattribute__", .slot 1),
    ("__lt__", .slot 1), ("__le__", .slot 1), ("__eq__", .slot 1), ("__ne__", .slot 1),
    ("__gt__", .slot 1), ("__ge__", .slot 1), ("__iter__", .slot 0), ("__sub__", .slot 1),
    ("__rsub__", .slot 1), ("__and__", .slot 1), ("__rand__", .slot 1), ("__xor__", .slot 1),
    ("__rxor__", .slot 1), ("__or__", .slot 1), ("__ror__", .slot 1), ("__len__", .slot 0),
    ("__contains__", .plain 1), ("copy", .plain 0), ("difference", .free), ("intersection", .free),
    ("isdisjoint", .plain 1), ("issubset", .plain 1), ("issuperset", .plain 1),
    ("__reduce__", .plain 0), ("__sizeof__", .plain 0), ("symmetric_difference", .plain 1),
    ("union", .free), ("__class_getitem__", .plain 1), ("__doc__", .data)]⟩,
  ⟨"range", "object", [
    ("__new__", .free), ("__repr__", .slot 0), ("__hash__", .slot 0), ("__getattribute__", .slot 1),
    ("__lt__", .slot 1), ("__le__", .slot 1), ("__eq__", .slot 1), ("__ne__", .slot 1),
    ("__gt__", .slot 1), ("__ge__", .slot 1), ("__iter__", .slot 0), ("__bool__", .slot 0),
    ("__len__", .slot 0), ("__getitem__", .slot 1), ("__contains__", .slot 1),
    ("__reversed__", .plain 0), ("__reduce__", .free), ("count", .plain 1), ("index", .plain 1),
    ("start", .data), ("stop", .data), ("step", .data), ("__doc__", .data)]⟩,
  ⟨"slice", "object", [
    ("__new__", .free), ("__repr__", .slot 0), ("__hash__", .data), ("__getattribute__", .slot 1),
    ("__lt__", .slot 1), ("__le__", .slot 1), ("__eq__", .slot 1), ("__ne__", .slot 1),
    ("__gt__", .slot 1), ("__ge__", .slot 1), ("indices", .plain 1), ("__reduce__", .plain 0),
    ("start", .data), ("stop", .data), ("step", .data), ("__doc__", .data)]⟩,
  ⟨"dict_keys", "object", [
    ("__repr__", .slot 0), ("__getattribute__", .slot 1), ("__lt__", .slot 1), ("__le__", .slot 1),
    ("__eq__", .slot 1), ("__ne__", .slot 1), ("__gt__", .slot 1), ("__ge__", .slot 1),
    ("__iter__", .slot 0), ("__sub__", .slot 1), ("__rsub__", .slot 1), ("__and__", .slot 1),
    ("__rand__", .slot 1), ("__xor__", .slot 1), ("__rxor__", .slot 1), ("__or__", .slot 1),
    ("__ror__", .slot 1), ("__len__", .slot 0), ("__contains__", .slot 1), ("isdisjoint", .plain 1),
    ("__reversed__", .plain 0), ("mapping", .data), ("__doc__", .data), ("__hash__", .data)]⟩,
  ⟨"dict_values", "object", [
    ("__repr__", .slot 0), ("__getattribute__", .slot 1), ("__iter__", .slot 0),
    ("__len__", .slot 0), ("__reversed__", .plain 0), ("mapping", .data), ("__doc__", .data)]⟩,
  ⟨"dict_items", "object", [
    ("__repr__", .slot 0), ("__getattribute__", .slot 1), ("__lt__", .slot 1), ("__le__", .slot 1),
    ("__eq__", .slot 1), ("__ne__", .slot 1), ("__gt__", .slot 1), ("__ge__", .slot 1),
    ("__iter__", .slot 0), ("__sub__", .slot 1), ("__rsub__", .slot 1), ("__and__", .slot 1),
    ("__rand__", .slot 1), ("__xor__", .slot 1), ("__rxor__", .slot 1), ("__or__", .slot 1),
    ("__ror__", .slot 1), ("__len__", .slot 0), ("__contains__", .slot 1), ("isdisjoint", .plain 1),
    ("__reversed__", .plain 0), ("mapping", .data), ("__doc__", .data), ("__hash__", .data)]⟩,
  ⟨"mappingproxy", "object", [
    ("__new__", .free), ("__repr__", .slot 0), ("__str__", .slot 0), ("__getattribute__", .slot 1),
    ("__lt__", .slot 1), ("__le__", .slot 1), ("__eq__", .slot 1), ("__ne__", .slot 1),
    ("__gt__", .slot 1), ("__ge__", .slot 1), ("__iter__", .slot 0), ("__or__", .slot 1),
    ("__ror__", .slot 1), ("__ior__", .slot 1), ("__len__", .slot 0), ("__getitem__", .slot 1),
    ("__contains__", .slot 1), ("get", .counted 1 2), ("keys", .plain 0), ("values", .plain 0),
    ("items", .plain 0), ("copy", .plain 0), ("__class_getitem__", .plain 1),
    ("__reversed__", .plain 0), ("__doc__", .data), ("__hash__", .data)]⟩]

/-! Types of functions, of what stands for functions in types, and of modules. -/

/-- The types of functions and modules. -/
def functionTypes : List BuiltinType := [
  ⟨"function", "object", [
    ("__new__", .free), ("__repr__", .slot 0), ("__call__", .free), ("__get__", .spaced 1 2),
    ("__closure__", .data), ("__doc__", .data), ("__globals__", .data), ("__module__", .data),
    ("__builtins__", .data), ("__code__", .data), ("__defaults__", .data),
    ("__kwdefaults__", .data), ("__annotations__", .data), ("__dict__", .data), ("__name__", .data),
    ("__qualname__", .data)]⟩,
  ⟨"method", "object", [
    ("__new__", .free), ("__repr__", .slot 0), ("__hash__", .slot 0), ("__call__", .free),
    ("__getattribute__", .slot 1), ("__setattr__", .spaced 2 2), ("__delattr__", .slot 1),
    ("__lt__", .slot 1), ("__le__", .slot 1), ("__eq__", .slot 1), ("__ne__", .slot 1),
    ("__gt__", .slot 1), ("__ge__", .slot 1), ("__reduce__", .plain 0), ("__func__", .data),
    ("__self__", .data), ("__doc__", .data)]⟩,
  ⟨"builtin_function_or_method", "object", [
    ("__repr__", .slot 0), ("__hash__", .slot 0), ("__call__", .free),
    ("__getattribute__", .slot 1), ("__lt__", .slot 1), ("__le__", .slot 1), ("__eq__", .slot 1),
    ("__ne__", .slot 1), ("__gt__", .slot 1), ("__ge__", .slot 1), ("__reduce__", .plain 0),
    ("__module__", .data), ("__doc__", .data), ("__name__", .data), ("__qualname__", .data),
    ("__self__", .data), ("__text_signature__", .data)]⟩,
  ⟨"method-wrapper", "object", [
    ("__repr__", .slot 0), ("__hash__", .slot 0), ("__call__", .free),
    ("__getattribute__", .slot 1), ("__lt__", .slot 1), ("__le__", .slot 1), ("__eq__", .slot 1),
    ("__ne__", .slot 1), ("__gt__", .slot 1), ("__ge__", .slot 1), ("__reduce__", .plain 0),
    ("__self__", .data), ("__objclass__", .data), ("__name__", .data), ("__qualname__", .data),
    ("__doc__", .data), ("__text_signature__", .data)]⟩,
  ⟨"wrapper_descriptor", "object", [
    ("__repr__", .slot 0), ("__call__", .free), ("__getattribute__", .slot 1),
    ("__get__", .spaced 1 2), ("__reduce__", .plain 0), ("__objclass__", .data),
    ("__name__", .data), ("__doc__", .data), ("__qualname__", .data), ("__text_signature__", .data)]⟩,
  ⟨"method_descriptor", "object", [
    ("__repr__", .slot 0), ("__call__", .free), ("__getattribute__", .slot 1),
    ("__get__", .spaced 1 2), ("__reduce__", .plain 0), ("__objclass__", .data),
    ("__name__", .data), ("__doc__", .data), ("__qualname__", .data), ("__text_signature__", .data)]⟩,
  ⟨"classmethod_descriptor", "object", [
    ("__repr__", .slot 0), ("__call__", .free), ("__getattribute__", .slot 1),
    ("__get__", .spaced 1 2), ("__objclass__", .data), ("__name__", .data), ("__doc__", .data),
    ("__qualname__", .data), ("__text_signature__", .data)]⟩,
  ⟨"getset_descriptor", "object", [
    ("__repr__", .slot 0), ("__getattribute__", .slot 1), ("__get__", .spaced 1 2),
    ("__set__", .spaced 2 2), ("__delete__", .slot 1), ("__objclass__", .data), ("__name__", .data),
    ("__doc__", .data), ("__qualname__", .data)]⟩,
  ⟨"member_descriptor", "object", [
    ("__repr__", .slot 0), ("__getattribute__", .slot 1), ("__get__", .spaced 1 2),
    ("__set__", .spaced 2 2), ("__delete__", .slot 1), ("__reduce__", .plain 0),
    ("__objclass__", .data), ("__name__", .data), ("__doc__", .data), ("__qualname__", .data)]⟩,
  ⟨"property", "object", [
    ("__new__", .free), ("__getattribute__", .slot 1), ("__get__", .spaced 1 2),
    ("__set__", .spaced 2 2), ("__delete__", .slot 1), ("__init__", .free), ("getter", .plain 1),
    ("setter", .plain 1), ("deleter", .plain 1), ("__set_name__", .free), ("fget", .data),
    ("fset", .data), ("fdel", .data), ("__doc__", .data), ("__isabstractmethod__", .data)]⟩,
  ⟨"staticmethod", "object", [
    ("__new__", .free), ("__repr__", .slot 0), ("__call__", .free), ("__get__", .spaced 1 2),
    ("__init__", .free), ("__func__", .data), ("__wrapped__", .data),
    ("__isabstractmethod__", .data), ("__dict__", .data), ("__doc__", .data)]⟩,
  ⟨"classmethod", "object", [
    ("__new__", .free), ("__repr__", .slot 0), ("__get__", .spaced 1 2), ("__init__", .free),
    ("__func__", .data), ("__wrapped__", .data), ("__isabstractmethod__", .data),
    ("__dict__", .data), ("__doc__", .data)]⟩,
  ⟨"super", "object", [
    ("__new__", .free), ("__repr__", .slot 0), ("__getattribute__", .slot 1),
    ("__get__", .spaced 1 2), ("__init__", .free), ("__thisclass__", .data), ("__self__", .data),
    ("__self_class__", .data), ("__doc__", .data)]⟩,
  ⟨"module", "object", [
    ("__new__", .free), ("__repr__", .slot 0), ("__getattribute__", .slot 1),
    ("__setattr__", .spaced 2 2), ("__delattr__", .slot 1), ("__init__", .free),
    ("__dir__", .plain 0), ("__dict__", .data), ("__annotations__", .data), ("__doc__", .data)]⟩,
  ⟨"generator", "object", [
    ("__repr__", .slot 0), ("__getattribute__", .slot 1), ("__iter__", .slot 0),
    ("__next__", .slot 0), ("__del__", .slot 0), ("send", .plain 1), ("throw", .counted 1 3),
    ("close", .plain 0), ("__sizeof__", .plain 0), ("gi_code", .data), ("__name__", .data),
    ("__qualname__", .data), ("gi_yieldfrom", .data), ("gi_running", .data), ("gi_frame", .data),
    ("gi_suspended", .data), ("__doc__", .data)]⟩,
  ⟨"coroutine", "object", [
    ("__repr__", .slot 0), ("__getattribute__", .slot 1), ("__del__", .slot 0),
    ("__await__", .slot 0), ("send", .plain 1), ("throw", .counted 1 3), ("close", .plain 0),
    ("__sizeof__", .plain 0), ("cr_code", .data), ("cr_origin", .data), ("__name__", .data),
    ("__qualname__", .data), ("cr_await", .data), ("cr_running", .data), ("cr_frame", .data),
    ("cr_suspended", .data), ("__doc__", .data)]⟩,
  ⟨"async_generator", "object", [
    ("__repr__", .slot 0), ("__getattribute__", .slot 1), ("__del__", .slot 0),
    ("__aiter__", .slot 0), ("__anext__", .slot 0), ("asend", .plain 1), ("athrow", .free),
    ("aclose", .plain 0), ("__sizeof__", .plain 0), ("__class_getitem__", .plain 1),
    ("ag_running", .data), ("ag_code", .data), ("__name__", .data), ("__qualname__", .data),
    ("ag_await", .data), ("ag_frame", .data), ("__doc__", .data)]⟩,
  ⟨"cell", "object", [
    ("__new__", .free), ("__repr__", .slot 0), ("__getattribute__", .slot 1), ("__lt__", .slot 1),
    ("__le__", .slot 1), ("__eq__", .slot 1), ("__ne__", .slot 1), ("__gt__", .slot 1),
    ("__ge__", .slot 1), ("cell_contents", .data), ("__doc__", .data), ("__hash__", .data)]⟩]

/-! Types of what gives values one by one. -/

/-- The types of sources of values. -/
def sourceTypes : List BuiltinType := [
  ⟨"list_iterator", "object", [
    ("__getattribute__", .slot 1), ("__iter__", .slot 0), ("__next__", .slot 0),
    ("__length_hint__", .plain 0), ("__reduce__", .plain 0), ("__setstate__", .plain 1),
    ("__doc__", .data)]⟩,
  ⟨"list_reverseiterator", "object", [
    ("__getattribute__", .slot 1), ("__iter__", .slot 0), ("__next__", .slot 0),
    ("__length_hint__", .plain 0), ("__reduce__", .plain 0), ("__setstate__", .plain 1),
    ("__doc__", .data)]⟩,
  ⟨"tuple_iterator", "object", [
    ("__getattribute__", .slot 1), ("__iter__", .slot 0), ("__next__", .slot 0),
    ("__length_hint__", .plain 0), ("__reduce__", .plain 0), ("__setstate__", .plain 1),
    ("__doc__", .data)]⟩,
  ⟨"str_ascii_iterator", "object", [
    ("__getattribute__", .slot 1), ("__iter__", .slot 0), ("__next__", .slot 0),
    ("__length_hint__", .plain 0), ("__reduce__", .plain 0), ("__setstate__", .plain 1),
    ("__doc__", .data)]⟩,
  ⟨"str_iterator", "object", [
    ("__getattribute__", .slot 1), ("__iter__", .slot 0), ("__next__", .slot 0),
    ("__length_hint__", .plain 0), ("__reduce__", .plain 0), ("__setstate__", .plain 1),
    ("__doc__", .data)]⟩,
  ⟨"bytes_iterator", "object", [
    ("__getattribute__", .slot 1), ("__iter__", .slot 0), ("__next__", .slot 0),
    ("__length_hint__", .plain 0), ("__reduce__", .plain 0), ("__setstate__", .plain 1),
    ("__doc__", .data)]⟩,
  ⟨"bytearray_iterator", "object", [
    ("__getattribute__", .slot 1), ("__iter__", .slot 0), ("__next__", .slot 0),
    ("__length_hint__", .plain 0), ("__reduce__", .plain 0), ("__setstate__", .plain 1),
    ("__doc__", .data)]⟩,
  ⟨"range_iterator", "object", [
    ("__getattribute__", .slot 1), ("__iter__", .slot 0), ("__next__", .slot 0),
    ("__length_hint__", .plain 0), ("__reduce__", .plain 0), ("__setstate__", .plain 1),
    ("__doc__", .data)]⟩,
  ⟨"longrange_iterator", "object", [
    ("__getattribute__", .slot 1), ("__iter__", .slot 0), ("__next__", .slot 0),
    ("__length_hint__", .plain 0), ("__reduce__", .plain 0), ("__setstate__", .plain 1),
    ("__doc__", .data)]⟩,
  ⟨"dict_keyiterator", "object", [
    ("__getattribute__", .slot 1), ("__iter__", .slot 0), ("__next__", .slot 0),
    ("__length_hint__", .plain 0), ("__reduce__", .plain 0), ("__doc__", .data)]⟩,
  ⟨"dict_valueiterator", "object", [
    ("__getattribute__", .slot 1), ("__iter__", .slot 0), ("__next__", .slot 0),
    ("__length_hint__", .plain 0), ("__reduce__", .plain 0), ("__doc__", .data)]⟩,
  ⟨"dict_itemiterator", "object", [
    ("__getattribute__", .slot 1), ("__iter__", .slot 0), ("__next__", .slot 0),
    ("__length_hint__", .plain 0), ("__reduce__", .plain 0), ("__doc__", .data)]⟩,
  ⟨"dict_reversekeyiterator", "object", [
    ("__iter__", .slot 0), ("__next__", .slot 0), ("__length_hint__", .plain 0),
    ("__reduce__", .plain 0), ("__doc__", .data)]⟩,
  ⟨"dict_reversevalueiterator", "object", [
    ("__iter__", .slot 0), ("__next__", .slot 0), ("__length_hint__", .plain 0),
    ("__reduce__", .plain 0), ("__doc__", .data)]⟩,
  ⟨"dict_reverseitemiterator", "object", [
    ("__iter__", .slot 0), ("__next__", .slot 0), ("__length_hint__", .plain 0),
    ("__reduce__", .plain 0), ("__doc__", .data)]⟩,
  ⟨"set_iterator", "object", [
    ("__getattribute__", .slot 1), ("__iter__", .slot 0), ("__next__", .slot 0),
    ("__length_hint__", .plain 0), ("__reduce__", .plain 0), ("__doc__", .data)]⟩,
  ⟨"callable_iterator", "object", [
    ("__getattribute__", .slot 1), ("__iter__", .slot 0), ("__next__", .slot 0),
    ("__reduce__", .plain 0), ("__doc__", .data)]⟩,
  ⟨"iterator", "object", [
    ("__getattribute__", .slot 1), ("__iter__", .slot 0), ("__next__", .slot 0),
    ("__length_hint__", .plain 0), ("__reduce__", .plain 0), ("__setstate__", .plain 1),
    ("__doc__", .data)]⟩,
  ⟨"enumerate", "object", [
    ("__new__", .free), ("__getattribute__", .slot 1), ("__iter__", .slot 0), ("__next__", .slot 0),
    ("__reduce__", .plain 0), ("__class_getitem__", .plain 1), ("__doc__", .data)]⟩,
  ⟨"zip", "object", [
    ("__new__", .free), ("__getattribute__", .slot 1), ("__iter__", .slot 0), ("__next__", .slot 0),
    ("__reduce__", .plain 0), ("__setstate__", .plain 1), ("__doc__", .data)]⟩,
  ⟨"map", "object", [
    ("__new__", .free), ("__getattribute__", .slot 1), ("__iter__", .slot 0), ("__next__", .slot 0),
    ("__reduce__", .plain 0), ("__doc__", .data)]⟩,
  ⟨"filter", "object", [
    ("__new__", .free), ("__getattribute__", .slot 1), ("__iter__", .slot 0), ("__next__", .slot 0),
    ("__reduce__", .plain 0), ("__doc__", .data)]⟩,
  ⟨"reversed", "object", [
    ("__new__", .free), ("__getattribute__", .slot 1), ("__iter__", .slot 0), ("__next__", .slot 0),
    ("__length_hint__", .plain 0), ("__reduce__", .plain 0), ("__setstate__", .plain 1),
    ("__doc__", .data)]⟩]

/-! Types of what code raises, each with the type that it is a kind of. -/

/-- The types of what can be raised that have members of their own. -/
def failureTypes : List BuiltinType := [
  ⟨"BaseException", "object", [
    ("__new__", .free), ("__repr__", .slot 0), ("__str__", .slot 0), ("__getattribute__", .slot 1),
    ("__setattr__", .spaced 2 2), ("__delattr__", .slot 1), ("__init__", .free),
    ("__reduce__", .plain 0), ("__setstate__", .plain 1), ("with_traceback", .plain 1),
    ("add_note", .plain 1), ("__suppress_context__", .data), ("__dict__", .data), ("args", .data),
    ("__traceback__", .data), ("__context__", .data), ("__cause__", .data), ("__doc__", .data)]⟩,
  ⟨"BaseExceptionGroup", "BaseException", [
    ("__new__", .free), ("__str__", .slot 0), ("__init__", .free), ("__class_getitem__", .plain 1),
    ("derive", .free), ("split", .counted 1 1), ("subgroup", .counted 1 1), ("message", .data),
    ("exceptions", .data), ("__doc__", .data)]⟩,
  ⟨"StopIteration", "Exception", [
    ("__init__", .free), ("value", .data), ("__doc__", .data)]⟩,
  ⟨"SystemExit", "BaseException", [
    ("__init__", .free), ("code", .data), ("__doc__", .data)]⟩,
  ⟨"ImportError", "Exception", [
    ("__str__", .slot 0), ("__init__", .free), ("__reduce__", .plain 0), ("msg", .data),
    ("name", .data), ("path", .data), ("__doc__", .data)]⟩,
  ⟨"OSError", "Exception", [
    ("__new__", .free), ("__str__", .slot 0), ("__init__", .free), ("__reduce__", .plain 0),
    ("errno", .data), ("strerror", .data), ("filename", .data), ("filename2", .data),
    ("characters_written", .data), ("__doc__", .data)]⟩,
  ⟨"NameError", "Exception", [
    ("__str__", .slot 0), ("__init__", .free), ("name", .data), ("__doc__", .data)]⟩,
  ⟨"AttributeError", "Exception", [
    ("__str__", .slot 0), ("__init__", .free), ("name", .data), ("obj", .data), ("__doc__", .data)]⟩,
  ⟨"SyntaxError", "Exception", [
    ("__str__", .slot 0), ("__init__", .free), ("msg", .data), ("filename", .data),
    ("lineno", .data), ("offset", .data), ("text", .data), ("end_lineno", .data),
    ("end_offset", .data), ("print_file_and_line", .data), ("__doc__", .data)]⟩,
  ⟨"KeyError", "LookupError", [
    ("__str__", .slot 0), ("__init__", .free), ("__doc__", .data)]⟩,
  ⟨"UnicodeDecodeError", "UnicodeError", [
    ("__new__", .free), ("__str__", .slot 0), ("__init__", .free), ("encoding", .data),
    ("object", .data), ("start", .data), ("end", .data), ("reason", .data), ("__doc__", .data)]⟩,
  ⟨"UnicodeEncodeError", "UnicodeError", [
    ("__new__", .free), ("__str__", .slot 0), ("__init__", .free), ("encoding", .data),
    ("object", .data), ("start", .data), ("end", .data), ("reason", .data), ("__doc__", .data)]⟩,
  ⟨"UnicodeTranslateError", "UnicodeError", [
    ("__new__", .free), ("__str__", .slot 0), ("__init__", .free), ("encoding", .data),
    ("object", .data), ("start", .data), ("end", .data), ("reason", .data), ("__doc__", .data)]⟩]

/-- The other types of what can be raised, by the type that they are a kind of. -/
def furtherFailures : List (String × List String) := [
  ("BaseExceptionGroup", ["ExceptionGroup"]),
  ("BaseException", ["Exception", "GeneratorExit", "KeyboardInterrupt"]),
  ("Exception", ["ArithmeticError", "AssertionError", "BufferError", "EOFError", "LookupError",
    "MemoryError", "ReferenceError", "RuntimeError", "StopAsyncIteration", "SystemError",
    "TypeError", "ValueError", "Warning"]),
  ("ArithmeticError", ["FloatingPointError", "OverflowError", "ZeroDivisionError"]),
  ("ImportError", ["ModuleNotFoundError"]),
  ("LookupError", ["IndexError"]),
  ("NameError", ["UnboundLocalError"]),
  ("OSError", ["BlockingIOError", "ChildProcessError", "ConnectionError", "FileExistsError",
    "FileNotFoundError", "InterruptedError", "IsADirectoryError", "NotADirectoryError",
    "PermissionError", "ProcessLookupError", "TimeoutError"]),
  ("ConnectionError", ["BrokenPipeError", "ConnectionAbortedError", "ConnectionRefusedError",
    "ConnectionResetError"]),
  ("RuntimeError", ["NotImplementedError", "RecursionError"]),
  ("SyntaxError", ["IndentationError"]),
  ("IndentationError", ["TabError"]),
  ("ValueError", ["UnicodeError"]),
  ("Warning", ["BytesWarning", "DeprecationWarning", "EncodingWarning", "FutureWarning",
    "ImportWarning", "PendingDeprecationWarning", "ResourceWarning", "RuntimeWarning",
    "SyntaxWarning", "UnicodeWarning", "UserWarning"])]

/-! The built-in types by name: what they derive from, and where a member is found. -/

/-- All built-in types that have members of their own. -/
def all : List BuiltinType :=
  plainTypes ++ textTypes ++ numberTypes ++ collectionTypes ++ functionTypes ++ sourceTypes
    ++ failureTypes

def ofName? (name : String) : Option BuiltinType := all.find? fun type => type.name == name

/-- The type that a built-in type derives from. -/
def baseOf? (name : String) : Option String :=
  match ofName? name with
  | some type => if type.base = "" then none else some type.base
  | none => (furtherFailures.find? fun (_, kinds) => kinds.contains name).map Prod.fst

/-- A type and those that it derives from, one behind the other, as far as the given depth. -/
def orderUpTo : Nat → String → List String
  | 0, _ => []
  | depth + 1, name =>
    name :: match baseOf? name with
      | some base => orderUpTo depth base
      | none => []

/-- A type and those that it derives from, one behind the other. No type derives from more than a few. -/
def order (name : String) : List String := orderUpTo 8 name

/-- Whether values of a type are values of another one. -/
def isKindOf (name ancestor : String) : Bool := (order name).contains ancestor

/-- Whether a name is that of a built-in type. -/
def isKnown (name : String) : Bool := (ofName? name).isSome || (baseOf? name).isSome

/-- The own member of a type. -/
def ownMember? (typeName name : String) : Option Arity :=
  (ofName? typeName).bind fun type => type.members.lookup name

/-- The type that a member comes from, and what it takes. -/
def memberFrom? (typeName name : String) : Option (String × Arity) :=
  (order typeName).findSome? fun owner => (ownMember? owner name).map fun arity => (owner, arity)

end BuiltinType

end SelectionGen.Evaluation
