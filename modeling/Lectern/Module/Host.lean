/-
Module: Lectern.Module.Host
Purpose: The names a compiled module expects from its host: what the banner binds, and the further
  members of the UI library that a source may refer to without binding them.
Main exports: hostObject, bannerNames, libraryMembers, isUnboundMember, bindingStatement, banner
-/

namespace Lectern.Module

/-- The object that holds the UI library's members. -/
def hostObject : String := "React"

/-- Globals of the host that the banner binds, in order. -/
def bannerGlobals : List String := ["React", "ReactDOM"]

/-- Members of the UI library that the banner binds, in order. -/
def bannerHooks : List String :=
  ["useState", "useEffect", "useMemo", "useCallback", "useRef", "Fragment"]

/-- Every name the banner can bind. -/
def bannerNames : List String := bannerGlobals ++ bannerHooks

/-- Members of the UI library that sources commonly use without binding them. -/
def libraryMembers : List String :=
  ["useReducer", "useContext", "useLayoutEffect", "useId", "useTransition", "useDeferredValue",
    "useImperativeHandle", "useSyncExternalStore", "useInsertionEffect", "memo", "forwardRef",
    "createContext", "createElement", "cloneElement", "Children", "isValidElement", "lazy",
    "Suspense", "StrictMode", "startTransition", "Component", "PureComponent", "createRef"]

/-- Is this a member that a module must bind itself? -/
def isUnboundMember (name : String) : Bool :=
  libraryMembers.contains name && !bannerNames.contains name

/-- The statement that binds members of the UI library. -/
def bindingStatement (names : List String) : String :=
  "const \x7b " ++ ", ".intercalate names ++ " \x7d = " ++ hostObject ++ ";"

/-- The statement that binds a global of the host. -/
def globalStatement (name : String) : String :=
  "const " ++ name ++ " = globalThis." ++ name ++ ";"

/-- The banner's lines: one for each global and one for all members, each without the names that
the module declares itself. -/
def bannerLines (declared : List String) : List String :=
  let globals := bannerGlobals.filter fun name => !declared.contains name
  let hooks := bannerHooks.filter fun name => !declared.contains name
  globals.map globalStatement ++ (if hooks.isEmpty then [] else [bindingStatement hooks])

/-- The banner of a module that declares some names. -/
def banner (declared : List String) : String := "\n".intercalate (bannerLines declared)

end Lectern.Module
