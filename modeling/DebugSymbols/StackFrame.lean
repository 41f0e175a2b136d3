import DebugSymbols.ModuleRegistry

/-!
# Where a frame stands in the source

A stack frame tells the method that runs and how far it has got. The symbols of the frame's module
turn that into a sequence point, into the code that a step runs over, and into the values of local
variables.
-/

namespace DebugSymbols

/-- A frame of managed code, each answer of which can fail. -/
structure StackFrame where
  method : Except SymbolError MethodToken
  module : Except SymbolError LoadedModule
  offset : Except SymbolError UInt32
  codeSize : Except SymbolError UInt32
  /-- The value of a local variable, none when it has no value here. -/
  localValue : UInt32 → Except SymbolError (Option ValueHandle)

structure FramePoint where
  offset : UInt32
  /-- The point, with the full path of the document. -/
  point : SequencePoint
deriving DecidableEq

namespace SymbolProvider

/-- The sequence point of a frame that has got to `offset` in `method`. The document is the one that
the provider gives for the offset. -/
def framePoint (p : SymbolProvider) (method : MethodToken) (offset : UInt32) :
    Traced FramePoint := do
  let source ← p.usableLine method offset
  let points ← p.askPoints method
  match SequencePoint.nearest? points offset with
  | none => Traced.fail (.notFound (.sequencePoint offset))
  | some nearest =>
    Traced.note (.frameMapped method offset nearest.startLine)
    return ⟨offset, { nearest with document := source.document }⟩

/-- The code of the statement at `offset` in `method`. A range that says nothing is extended to the
end of the method, of which the size is asked only then. -/
def frameStep (p : SymbolProvider) (method : MethodToken) (offset : UInt32)
    (codeSize : Except SymbolError UInt32) : Traced StepRange := do
  let range ← p.askStepRange offset method
  if range.isEmpty then
    let size ← codeSize
    let widened := range.widenTo size
    Traced.note (.stepWidened method offset widened)
    return widened
  else return range

/-- The local variable of a slot, put together with the value it has in a frame. -/
def frameVariable (p : SymbolProvider) (method : MethodToken) (slot : UInt32)
    (value : Except SymbolError (Option ValueHandle)) : Traced LocalVariable := do
  let scope ← p.askLocalScope method slot
  match ← value with
  | none => Traced.fail (.notFound (.localValue scope.name))
  | some value => return ⟨scope, value⟩

end SymbolProvider

namespace StackFrame

def moduleAddress (f : StackFrame) : Except SymbolError Address := do
  let m ← f.module
  m.baseAddress

def sequencePoint (f : StackFrame) (r : ModuleRegistry) : Traced FramePoint := do
  let method ← f.method
  let offset ← f.offset
  let address ← f.moduleAddress
  let p ← r.providerAt address
  p.framePoint method offset

def stepRange (f : StackFrame) (r : ModuleRegistry) : Traced StepRange := do
  let method ← f.method
  let offset ← f.offset
  let address ← f.moduleAddress
  let p ← r.providerAt address
  p.frameStep method offset f.codeSize

def localVariable (f : StackFrame) (r : ModuleRegistry) (slot : UInt32) :
    Traced LocalVariable := do
  let method ← f.method
  let address ← f.moduleAddress
  let p ← r.providerAt address
  p.frameVariable method slot (f.localValue slot)

/-- The code of the statement in which a thread stands, given its active frame. -/
def stepRangeOfThread (active : Except SymbolError (Option StackFrame)) (r : ModuleRegistry) :
    Traced StepRange := do
  match ← active with
  | none => Traced.fail (.notFound .activeFrame)
  | some f => f.stepRange r

end StackFrame

def LoadedModule.locate (m : LoadedModule) (r : ModuleRegistry) (path : String) (line : UInt32) :
    Traced CodeLocation := do
  let address ← m.baseAddress
  r.locateAt address path line

end DebugSymbols
