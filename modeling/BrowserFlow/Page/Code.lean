import BrowserFlow.Value.JsonText

/-!
The code that runs inside the page: the capture listener, the search for an element, and the effects of the
commands. Arguments are written into the code as JSON.
-/

namespace BrowserFlow.PageCode

def joined (lines : List String) : String := "\n".intercalate lines

def bindingName : String := "__flowRecordAction"

def capturedKeys : List String := ["Enter", "Escape", "Tab"]

/-- A scroll is reported once the page has stood still this long. -/
def scrollDebounce : Nat := 500

def describeElement : String := joined
  [
    "",
    "function __flowResolveSelector(element) \x7b",
    "    const selectors = \x7b\x7d;",
    "    if (element.id) selectors.id = element.id;",
    "    if (element.getAttribute && element.getAttribute('name')) \x7b",
    "        selectors.name = element.getAttribute('name');",
    "    \x7d",
    "",
    "    if (element.id) \x7b",
    "        selectors.css = '#' + element.id;",
    "    \x7d else \x7b",
    "        const path = [];",
    "        let current = element;",
    "        while (current && current.nodeType === Node.ELEMENT_NODE && path.length < 5) \x7b",
    "            if (current.id) \x7b",
    "                path.unshift('#' + current.id);",
    "                break;",
    "            \x7d",
    "            let step = current.nodeName.toLowerCase();",
    "            if (typeof current.className === 'string' && current.className.trim()) \x7b",
    "                step += '.' + current.className.trim().split(/\\s+/).join('.');",
    "            \x7d",
    "            path.unshift(step);",
    "            current = current.parentElement;",
    "        \x7d",
    "        selectors.css = path.join(' > ');",
    "    \x7d",
    "",
    "    function xpathOf(node) \x7b",
    "        if (node.id) return '//*[@id=\"' + node.id + '\"]';",
    "        const parent = node.parentElement;",
    "        const tag = node.tagName.toLowerCase();",
    "        if (!parent) return '/' + tag;",
    "        let index = 0;",
    "        for (const sibling of parent.children) \x7b",
    "            if (sibling.tagName === node.tagName) index++;",
    "            if (sibling === node) break;",
    "        \x7d",
    "        return xpathOf(parent) + '/' + tag + '[' + index + ']';",
    "    \x7d",
    "    selectors.xpath = xpathOf(element);",
    "",
    "    const text = (element.textContent || '').trim();",
    "    if (text.length > 0 && text.length < 50) selectors.text = text;",
    "",
    "    return selectors;",
    "\x7d",
    ""
  ]

def listenerStart : String := joined
  [
    "",
    "(function() \x7b",
    "    if (window.__flowRecorderInstalled) return 'already-installed';",
    "    window.__flowRecorderInstalled = true;",
    ""
  ]

def listenerSend : String := joined
  [
    "",
    "    function send(kind, selector, value) \x7b",
    "        try \x7b",
    "            if (window.__flowRecordAction) \x7b",
    "                window.__flowRecordAction(JSON.stringify(\x7b",
    "                    kind: kind,",
    "                    selector: selector || null,",
    "                    value: value === undefined ? null : value",
    "                \x7d));",
    "            \x7d",
    "        \x7d catch (e) \x7b",
    "            console.warn('[Flow Recorder] Failed to send action:', e);",
    "        \x7d",
    "    \x7d",
    "",
    "    function onClick(e) \x7b",
    "        if (!e.isTrusted || !e.target || !e.target.tagName) return;",
    "        send('click', __flowResolveSelector(e.target));",
    "    \x7d",
    "",
    "    function onInput(e) \x7b",
    "        const target = e.target;",
    "        if (!e.isTrusted || !target || !target.tagName || target.tagName === 'SELECT') return;",
    "        if (!('value' in target)) return;",
    "        send('input', __flowResolveSelector(target), target.value);",
    "    \x7d",
    "",
    "    function onChange(e) \x7b",
    "        if (!e.isTrusted || !e.target || e.target.tagName !== 'SELECT') return;",
    "        send('select', __flowResolveSelector(e.target), e.target.value);",
    "    \x7d",
    "",
    "    let scrollTimeout = null;",
    "    function onScroll() \x7b",
    "        clearTimeout(scrollTimeout);",
    "        scrollTimeout = setTimeout(function() \x7b",
    "            send('scroll', null, JSON.stringify(\x7b x: window.scrollX, y: window.scrollY \x7d));",
    "        \x7d, "
  ]

def listenerKeys : String := joined
  [
    ");",
    "    \x7d",
    "",
    "    function onKeydown(e) \x7b",
    "        if (!e.isTrusted || "
  ]

def listenerEnd : String := joined
  [
    ".indexOf(e.key) === -1) return;",
    "        send('keypress', __flowResolveSelector(e.target), JSON.stringify(\x7b",
    "            key: e.key,",
    "            code: e.code,",
    "            ctrlKey: e.ctrlKey,",
    "            shiftKey: e.shiftKey,",
    "            altKey: e.altKey,",
    "            metaKey: e.metaKey",
    "        \x7d));",
    "    \x7d",
    "",
    "    document.addEventListener('click', onClick, true);",
    "    document.addEventListener('input', onInput, true);",
    "    document.addEventListener('change', onChange, true);",
    "    document.addEventListener('keydown', onKeydown, true);",
    "    window.addEventListener('scroll', onScroll, true);",
    "",
    "    window.__flowRecorderCleanup = function() \x7b",
    "        document.removeEventListener('click', onClick, true);",
    "        document.removeEventListener('input', onInput, true);",
    "        document.removeEventListener('change', onChange, true);",
    "        document.removeEventListener('keydown', onKeydown, true);",
    "        window.removeEventListener('scroll', onScroll, true);",
    "        clearTimeout(scrollTimeout);",
    "        delete window.__flowRecorderInstalled;",
    "        delete window.__flowRecorderCleanup;",
    "    \x7d;",
    "",
    "    console.log('[Flow Recorder] Capture listener installed');",
    "    return 'installed';",
    "\x7d)()",
    ""
  ]

def inQuotes (s : String) : String := "'" ++ s ++ "'"

def install : String :=
  listenerStart ++ describeElement ++ listenerSend ++ toString scrollDebounce ++ listenerKeys ++
    "[" ++ ", ".intercalate (capturedKeys.map inQuotes) ++ "]" ++ listenerEnd

def uninstall : String := joined
  [
    "",
    "(function() \x7b",
    "    if (window.__flowRecorderCleanup) \x7b",
    "        window.__flowRecorderCleanup();",
    "        console.log('[Flow Recorder] Capture listener removed');",
    "        return true;",
    "    \x7d",
    "    return false;",
    "\x7d)()",
    ""
  ]

def ready : String := "document.readyState"

def findElement : String := joined
  [
    "",
    "function __flowFindElement(selector) \x7b",
    "    if (selector.startsWith('/') || selector.startsWith('(')) \x7b",
    "        return document.evaluate(",
    "            selector, document, null, XPathResult.FIRST_ORDERED_NODE_TYPE, null",
    "        ).singleNodeValue;",
    "    \x7d",
    "    if (selector.startsWith('text=')) \x7b",
    "        const wanted = selector.slice(5);",
    "        let match = null;",
    "        for (const el of document.querySelectorAll('body *')) \x7b",
    "            if ((el.textContent || '').trim() === wanted) match = el;",
    "        \x7d",
    "        return match;",
    "    \x7d",
    "    return document.querySelector(selector);",
    "\x7d",
    ""
  ]

def clickEffect : String := joined
  [
    "",
    "    el.scrollIntoView(\x7b block: 'center', inline: 'center' \x7d);",
    "    el.click();",
    ""
  ]

def setValueEffect : String := joined
  [
    "",
    "    const descriptor = Object.getOwnPropertyDescriptor(Object.getPrototypeOf(el), 'value');",
    "    if (descriptor && descriptor.set) \x7b",
    "        descriptor.set.call(el, value);",
    "    \x7d else \x7b",
    "        el.value = value;",
    "    \x7d",
    "    el.dispatchEvent(new Event('input', \x7b bubbles: true \x7d));",
    "    el.dispatchEvent(new Event('change', \x7b bubbles: true \x7d));",
    ""
  ]

def fillEffect : String := "\n    el.focus();" ++ setValueEffect

def pressStart : String := joined
  [
    "",
    "(function(key) \x7b",
    "    const el = document.activeElement || document.body;",
    "    const init = \x7b key: key, code: key, bubbles: true, cancelable: true \x7d;",
    "    el.dispatchEvent(new KeyboardEvent('keydown', init));",
    "    el.dispatchEvent(new KeyboardEvent('keypress', init));",
    "    el.dispatchEvent(new KeyboardEvent('keyup', init));",
    "    if (key === 'Enter' && el.form) \x7b",
    "        if (typeof el.form.requestSubmit === 'function') \x7b",
    "            el.form.requestSubmit();",
    "        \x7d else \x7b",
    "            el.form.submit();",
    "        \x7d",
    "        return 'submitted';",
    "    \x7d",
    "    return 'pressed';",
    "\x7d)("
  ]

def press (key : String) : String := pressStart ++ Json.asciiString key ++ ")\n"

def elementArguments (selector : String) (value : Option String) : String :=
  Json.asciiString selector ++ ", " ++ match value with
    | some v => Json.asciiString v
    | none => "null"

/-- An effect on the element that a selector finds; false if it finds none. -/
def onElement (effect selector : String) (value : Option String) : String :=
  "(function(selector, value) \x7b\n" ++ findElement ++
    "    const el = __flowFindElement(selector);\n    if (!el) return false;\n" ++ effect ++
    "    return true;\n\x7d)(" ++ elementArguments selector value ++ ")"

def isPresent (selector : String) : String :=
  "(function() \x7b " ++ findElement ++ " return !!__flowFindElement(" ++ Json.asciiString selector ++
    "); \x7d)()"

end BrowserFlow.PageCode
