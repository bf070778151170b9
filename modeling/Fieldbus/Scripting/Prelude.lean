import Fieldbus.Scripting.Machine

/-!
# Functions that scripts find: those that are scripts

Functions that call others back are written as a script themselves. That script is handed the
functions that only it may use.

* `Prelude.source`: the script.
* `Prelude.heap`: the heap in which other scripts begin.
-/

namespace Fieldbus.Scripting.Prelude

/-- What concerns values of every kind. -/
def basic : String := "
local hidden = ...
local type, error, select, next, rawequal = type, error, select, next, rawequal
local handler, plain = hidden.handler, hidden.tostring
local pack, unpack, concat = table.pack, table.unpack, table.concat
local byte, codepoint = string.byte, utf8.codepoint

function assert(...)
  local v, message = ...
  if v then return ... end
  local n = select('#', ...)
  if n == 0 then error([[bad argument #1 to 'assert' (value expected)]], 2) end
  if n == 1 then message = 'assertion failed!' end
  error(message, 0)
end

function tostring(...)
  if select('#', ...) == 0 then error([[bad argument #1 to 'tostring' (value expected)]], 2) end
  local v = ...
  local f = handler(v, '__tostring')
  if f ~= nil then
    local s = f(v)
    if type(s) == 'number' then s = plain(s) end
    if type(s) ~= 'string' then error([['__tostring' must return a string]], 2) end
    return s
  end
  local name = handler(v, '__name')
  if type(name) == 'string' then
    return name .. hidden.match(plain(v), ':.*')
  end
  return plain(v)
end
local tostring = tostring

function print(...)
  for i = 1, select('#', ...) do tostring((select(i, ...))) end
end

local function step(t, i)
  i = i + 1
  local v = t[i]
  if v ~= nil then return i, v end
  return nil
end

function ipairs(...)
  if select('#', ...) == 0 then
    error([[bad argument #1 to 'ipairs' (table expected, got no value)]], 2)
  end
  return step, (...), 0
end

function pairs(...)
  if select('#', ...) == 0 then
    error([[bad argument #1 to 'pairs' (table expected, got no value)]], 2)
  end
  local t = ...
  local f = handler(t, '__pairs')
  if f ~= nil then
    local a, b, c = f(t)
    return a, b, c
  end
  return next, t, nil
end
"

/-- What concerns texts. -/
def texts : String := "
function string.gsub(s, p, r, n)
  local kind = type(r)
  if kind ~= 'string' and kind ~= 'number' and kind ~= 'table' and kind ~= 'function' then
    error([[bad argument #3 to 'gsub' (string/function/table expected, got ]] .. kind .. ')', 2)
  end
  local parts, rest = hidden.taken(s, p, n)
  local out = pack()
  for i = 1, parts.n do
    local part = parts[i]
    local v
    if kind == 'table' then v = r[part[3]]
    elseif kind == 'function' then v = r(unpack(part, 3, part.n))
    else v = hidden.replacement(r, part) end
    if not v then v = part[2]
    elseif type(v) ~= 'string' and type(v) ~= 'number' then
      error('invalid replacement value (a ' .. type(v) .. ')', 2)
    end
    out[2 * i - 1] = part[1]
    out[2 * i] = v
  end
  out[2 * parts.n + 1] = rest
  return concat(out), parts.n
end

function string.gmatch(s, p, init)
  local parts = hidden.matches(s, p, init)
  local i = 0
  return function()
    i = i + 1
    if i > parts.n then return nil end
    return unpack(parts[i], 3, parts[i].n)
  end
end

function string.format(form, ...)
  local values, both = pack(...), pack()
  for i = 1, values.n do
    local v = values[i]
    local kind = type(v)
    both[2 * i - 1] = v
    if kind ~= 'string' and kind ~= 'number' and kind ~= 'nil' and kind ~= 'boolean' then
      v = tostring(v)
    end
    both[2 * i] = v
  end
  return hidden.format(form, unpack(both, 1, 2 * values.n))
end

function utf8.codes(s, lax)
  return function(s, i)
    i = i + 1
    while i <= #s and byte(s, i) >= 128 and byte(s, i) < 192 do i = i + 1 end
    if i > #s then return nil end
    return i, codepoint(s, i, i, lax)
  end, s, 0
end

function utf8.offset(s, n, i)
  local function inside(j)
    local b = byte(s, j)
    return b ~= nil and b >= 128 and b < 192
  end
  i = i or (n > 0 and 1 or #s + 1)
  if i < 0 then i = #s + i + 1 end
  if i < 1 or i > #s + 1 then error([[bad argument #3 to 'offset' (position out of bounds)]], 2) end
  if n == 0 then
    while i > 1 and inside(i) do i = i - 1 end
    return i
  end
  if inside(i) then error('initial position is a continuation byte', 2) end
  if n > 0 then n = n - 1 end
  while n < 0 and i > 1 do
    repeat i = i - 1 until not (i > 1 and inside(i))
    n = n + 1
  end
  while n > 0 and i <= #s do
    repeat i = i + 1 until not inside(i)
    n = n - 1
  end
  if n == 0 then return i end
  return nil
end
"

/-- What concerns lists and coroutines. -/
def lists : String := "
function table.sort(t, before)
  if type(t) ~= 'table' then
    error([[bad argument #1 to 'sort' (table expected, got ]] .. type(t) .. ')', 2)
  end
  if before ~= nil and type(before) ~= 'function' then
    error([[bad argument #2 to 'sort' (function expected, got ]] .. type(before) .. ')', 2)
  end
  before = before or function(a, b) return a < b end
  local n = #t
  local from, to = t, pack()
  local width = 1
  while width < n do
    local i = 1
    while i <= n do
      local a, b = i, i + width
      local last, stop = b, i + 2 * width
      if last > n + 1 then last = n + 1 end
      if stop > n + 1 then stop = n + 1 end
      b = last
      for k = i, stop - 1 do
        if a < last and (b >= stop or not before(from[b], from[a])) then
          to[k] = from[a]
          a = a + 1
        else
          to[k] = from[b]
          b = b + 1
        end
      end
      i = stop
    end
    if from == t then from, to = to, pack() else from, to = to, from end
    width = 2 * width
  end
  if from ~= t then for k = 1, n do t[k] = from[k] end end
end

local function checked(ok, ...)
  if ok then return ... end
  error((...), 0)
end

function coroutine.wrap(f)
  local co = coroutine.create(f)
  local resume = hidden.resume
  return function(...) return checked(resume(co, ...)) end
end

function string.dump() error('unable to dump given function', 2) end
"

/-- What concerns the outside, of which scripts see nothing. -/
def surroundings : String := "
local mode = 'incremental'

function collectgarbage(option)
  if option == nil then option = 'collect' end
  if type(option) == 'string' then
    if option == 'collect' or option == 'stop' or option == 'restart' then return 0 end
    if option == 'count' then return 64.0 end
    if option == 'step' or option == 'isrunning' then return true end
    if option == 'setpause' then return 200 end
    if option == 'setstepmul' then return 100 end
    if option == 'incremental' or option == 'generational' then
      local last = mode
      mode = option
      return last
    end
  end
  error([[bad argument #1 to 'collectgarbage' (invalid option ']] .. plain(option) .. [[')]], 2)
end

function warn(...)
  local n = select('#', ...)
  if n == 0 then error([[bad argument #1 to 'warn' (string expected, got no value)]], 2) end
  for i = 1, n do
    local kind = type((select(i, ...)))
    if kind ~= 'string' and kind ~= 'number' then
      error([[bad argument #]] .. i .. [[ to 'warn' (string expected, got ]] .. kind .. ')', 2)
    end
  end
end

local function empty()
  local t = pack()
  t.n = nil
  return t
end

package.loaded, package.preload, package.searchers = empty(), empty(), empty()
package.loaded._G = _G
for name, v in next, _G, nil do
  if type(v) == 'table' then package.loaded[name] = v end
end
package.path, package.cpath = '', ''
package.config = '/\\n;\\n?\\n!\\n-\\n'

local loaded, preload = package.loaded, package.preload

function require(name)
  local v = loaded[name]
  if v then return v end
  local loader = preload[name]
  if loader == nil then error([[module ']] .. name .. [[' not found]], 2) end
  v = loader(name, ':preload:')
  if v ~= nil then loaded[name] = v
  elseif loaded[name] == nil then loaded[name] = true end
  return loaded[name], ':preload:'
end

local function absent(name)
  return nil, plain(name) .. ': No such file or directory', 2
end

function loadfile(name) return absent(name) end
function dofile(name) error((select(2, absent(name))), 2) end
function os.time() return 0 end
function os.clock() return 0.0 end
function os.date() return '' end
function os.getenv() return nil end
function os.difftime(a, b) return a - b + 0.0 end
function os.remove(name) return absent(name) end
function os.rename(name) return absent(name) end
function io.open(name) return absent(name) end
function io.write() return nil end
"

/-- The script. -/
def source : String := basic ++ texts ++ lists ++ surroundings

/-- What else only the script may use. -/
def hiddenNames : List (String × Value) :=
  [("match", .builtin "string.match"), ("resume", .builtin "coroutine.resume")]

/-- The heap in which scripts begin. -/
def heap : Heap :=
  let hidden := Library.tablePlace "hidden"
  let h := hiddenNames.foldl (fun h e => h.set hidden (.ofString e.1) e.2) Library.heap
  match readScript? (utf8 source) with
  | none => h
  | some body =>
    let (f, h) := Machine.program h "prelude" body
    (Machine.callFromHost h f [.table hidden]).2

end Fieldbus.Scripting.Prelude
