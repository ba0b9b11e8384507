/-
Module: Lectern.Sandbox.Scripts
Purpose: What stands around the module of a lesson: the style that it starts from, and two scripts.
  One takes the network and the storage away, one shows the errors of the lesson in its place.
Main exports: joinLines, presetVersion, presetStyle, guardScript, errorBoundaryScript
-/

namespace Lectern.Sandbox

/-- Lines as one text, each with its end. -/
def joinLines (lines : List String) : String := String.join (lines.map (· ++ "\n"))

/-- The version of the style that every lesson starts from. -/
def presetVersion : String := "2"

/-- The style that every lesson starts from. -/
def presetStyle : String := joinLines [
  ":host, body \x7b",
  "  color: inherit;",
  "  font: inherit;",
  "  --lf-fg: currentColor;",
  "  --lf-muted: rgba(0, 0, 0, 0.6);",
  "  --lf-border: rgba(0, 0, 0, 0.12);",
  "  --lf-primary: #0ea5e9;",
  "  --lf-radius: 12px;",
  "\x7d",
  ":host *, :host *::before, :host *::after,",
  "body *, body *::before, body *::after \x7b",
  "  box-sizing: border-box;",
  "\x7d",
  "@media (prefers-color-scheme: dark) \x7b",
  "  :host, body \x7b",
  "    --lf-muted: rgba(255, 255, 255, 0.7);",
  "    --lf-border: rgba(255, 255, 255, 0.16);",
  "  \x7d",
  "\x7d",
  "h1 \x7b font-size: 1.875rem; line-height: 2.25rem; margin: 1rem 0; \x7d",
  "h2 \x7b font-size: 1.5rem; line-height: 2rem; margin: 0.875rem 0; \x7d",
  "h3 \x7b font-size: 1.25rem; line-height: 1.75rem; margin: 0.75rem 0; \x7d",
  "p \x7b margin: 0.5rem 0; \x7d",
  "button \x7b font: inherit; cursor: pointer; \x7d",
  "svg \x7b max-width: 100%; height: auto; \x7d",
  "[data-lf-diagnostic] \x7b",
  "  border: 1px solid #dc2626;",
  "  border-radius: var(--lf-radius);",
  "  color: #991b1b;",
  "  padding: 0.75rem;",
  "\x7d"]

/-! ## Scripts -/

/-- The script that removes what could reach the network and puts memory in place of the storage. -/
def guardScript : String := joinLines [
  "(function () \x7b",
  "  \"use strict\";",
  "  function block(target, name) \x7b",
  "    try \x7b",
  "      Object.defineProperty(target, name, \x7b value: undefined, writable: false, " ++
    "configurable: false \x7d);",
  "    \x7d catch (e) \x7b",
  "      console.warn(\"lessonforge: could not remove \" + name);",
  "    \x7d",
  "  \x7d",
  "  [\"fetch\", \"XMLHttpRequest\", \"WebSocket\", \"EventSource\"].forEach(function (name) \x7b",
  "    block(window, name);",
  "  \x7d);",
  "  block(Navigator.prototype, \"sendBeacon\");",
  "",
  "  function memoryStorage() \x7b",
  "    var data = new Map();",
  "    return \x7b",
  "      get length() \x7b return data.size; \x7d,",
  "      key: function (index) \x7b",
  "        var keys = Array.from(data.keys());",
  "        return index < keys.length ? keys[index] : null;",
  "      \x7d,",
  "      getItem: function (key) \x7b",
  "        key = String(key);",
  "        return data.has(key) ? data.get(key) : null;",
  "      \x7d,",
  "      setItem: function (key, value) \x7b data.set(String(key), String(value)); \x7d,",
  "      removeItem: function (key) \x7b data.delete(String(key)); \x7d,",
  "      clear: function () \x7b data.clear(); \x7d",
  "    \x7d;",
  "  \x7d",
  "  [\"localStorage\", \"sessionStorage\"].forEach(function (name) \x7b",
  "    try \x7b",
  "      Object.defineProperty(window, name, \x7b value: memoryStorage(), configurable: false " ++
    "\x7d);",
  "    \x7d catch (e) \x7b",
  "      console.warn(\"lessonforge: could not replace \" + name);",
  "    \x7d",
  "  \x7d);",
  "\x7d)();"]

/-- The component that shows an error of the lesson instead of the lesson, and reports it. -/
def errorBoundaryScript : String := joinLines [
  "class LessonErrorBoundary extends React.Component \x7b",
  "  constructor(props) \x7b",
  "    super(props);",
  "    this.state = \x7b error: null \x7d;",
  "  \x7d",
  "  static getDerivedStateFromError(error) \x7b",
  "    return \x7b error \x7d;",
  "  \x7d",
  "  componentDidCatch(error) \x7b",
  "    reportError(String(error && error.message ? error.message : error));",
  "  \x7d",
  "  render() \x7b",
  "    if (this.state.error) \x7b",
  "      return React.createElement(",
  "        \"div\",",
  "        \x7b role: \"alert\", \"data-lf-diagnostic\": \"\" \x7d,",
  "        \"Generated component error: \" + String(this.state.error.message || this.state.error)",
  "      );",
  "    \x7d",
  "    return this.props.children;",
  "  \x7d",
  "\x7d"]

/-- The lines that load the module behind `handle` and render it into the element `target`. -/
def renderLines (handle target : String) : List String := [
  "try \x7b",
  "  const \x7b default: Component \x7d = await import(" ++ handle ++ ");",
  "  ReactDOM.createRoot(" ++ target ++ ").render(",
  "    React.createElement(LessonErrorBoundary, null, React.createElement(Component))",
  "  );",
  "\x7d catch (error) \x7b",
  "  reportError(String(error && error.message ? error.message : error));",
  "\x7d"]

end Lectern.Sandbox
