/-!
# Kinds of errors

Error kinds form a hierarchy in which a kind may have more than one parent: a
number that needs too many bits is both a failed conversion and an overflow.
-/

namespace Readout

/-- The kind of an error. -/
inductive ErrorKind
  | any
  | exception
  | arithmetic
  | floatingPoint
  | overflow
  | zeroDivision
  | assertion
  | attribute
  | buffer
  | endOfFile
  | lookup
  | index
  | key
  | memory
  | name
  | operatingSystem
  | runtime
  | notImplemented
  | recursion
  | endOfIteration
  | type
  | value
  | unicode
  | conversion
  | range
  | invalidArgument
  | bitOverflow
  deriving DecidableEq, Repr

namespace ErrorKind

/-- The name under which a kind is reported. -/
def text : ErrorKind → String
  | .any => "BaseException"
  | .exception => "Exception"
  | .arithmetic => "ArithmeticError"
  | .floatingPoint => "FloatingPointError"
  | .overflow => "OverflowError"
  | .zeroDivision => "ZeroDivisionError"
  | .assertion => "AssertionError"
  | .attribute => "AttributeError"
  | .buffer => "BufferError"
  | .endOfFile => "EOFError"
  | .lookup => "LookupError"
  | .index => "IndexError"
  | .key => "KeyError"
  | .memory => "MemoryError"
  | .name => "NameError"
  | .operatingSystem => "OSError"
  | .runtime => "RuntimeError"
  | .notImplemented => "NotImplementedError"
  | .recursion => "RecursionError"
  | .endOfIteration => "StopIteration"
  | .type => "TypeError"
  | .value => "ValueError"
  | .unicode => "UnicodeError"
  | .conversion => "ConversionError"
  | .range => "RangeError"
  | .invalidArgument => "InvalidArgumentError"
  | .bitOverflow => "BitOverflowError"

/-- Every kind. -/
def all : List ErrorKind :=
  [ .any, .exception, .arithmetic, .floatingPoint, .overflow, .zeroDivision,
    .assertion, .attribute, .buffer, .endOfFile, .lookup, .index, .key, .memory,
    .name, .operatingSystem, .runtime, .notImplemented, .recursion,
    .endOfIteration, .type, .value, .unicode, .conversion, .range,
    .invalidArgument, .bitOverflow ]

/-- The kind reported under a name. -/
def ofText? (text : String) : Option ErrorKind :=
  all.find? fun kind => kind.text = text

/-- A kind and all the kinds above it, nearest first. -/
def lineage : ErrorKind → List ErrorKind
  | .any => [.any]
  | .exception => [.exception, .any]
  | .arithmetic => [.arithmetic, .exception, .any]
  | .floatingPoint => [.floatingPoint, .arithmetic, .exception, .any]
  | .overflow => [.overflow, .arithmetic, .exception, .any]
  | .zeroDivision => [.zeroDivision, .arithmetic, .exception, .any]
  | .assertion => [.assertion, .exception, .any]
  | .attribute => [.attribute, .exception, .any]
  | .buffer => [.buffer, .exception, .any]
  | .endOfFile => [.endOfFile, .exception, .any]
  | .lookup => [.lookup, .exception, .any]
  | .index => [.index, .lookup, .exception, .any]
  | .key => [.key, .lookup, .exception, .any]
  | .memory => [.memory, .exception, .any]
  | .name => [.name, .exception, .any]
  | .operatingSystem => [.operatingSystem, .exception, .any]
  | .runtime => [.runtime, .exception, .any]
  | .notImplemented => [.notImplemented, .runtime, .exception, .any]
  | .recursion => [.recursion, .runtime, .exception, .any]
  | .endOfIteration => [.endOfIteration, .exception, .any]
  | .type => [.type, .exception, .any]
  | .value => [.value, .exception, .any]
  | .unicode => [.unicode, .value, .exception, .any]
  | .conversion => [.conversion, .value, .exception, .any]
  | .range => [.range, .conversion, .value, .exception, .any]
  | .invalidArgument => [.invalidArgument, .conversion, .value, .exception, .any]
  | .bitOverflow =>
      [ .bitOverflow, .conversion, .value, .overflow, .arithmetic, .exception,
        .any ]

/-- Whether every error of one kind is also of another. -/
def isA (kind ancestor : ErrorKind) : Bool :=
  kind.lineage.contains ancestor

end ErrorKind
end Readout
