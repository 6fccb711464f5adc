import SnippetLint.Template.Store

/-!
# Bundled templates

The templates that are there without any configuration: for five languages a default one, one
that computes factorials, and one for lists of things to do. HTML and CSS have none.
-/

namespace SnippetLint.Bundled

/-- The default template of JavaScript. -/
def javaScriptDefault : String := textOfLines [
  "// Generated JavaScript code based on your request",
  "function processData(data) \x7b",
  "    // Process the input data",
  "    const result = data.map(item => \x7b",
  "        return \x7b",
  "            ...item,",
  "            processed: true,",
  "            timestamp: new Date().toISOString()",
  "        \x7d;",
  "    \x7d);",
  "",
  "    return result;",
  "\x7d",
  "",
  "// Example usage",
  "const sampleData = [\x7b name: 'Item 1' \x7d, \x7b name: 'Item 2' \x7d];",
  "console.log(processData(sampleData));"]

/-- The JavaScript template that computes factorials. -/
def javaScriptFactorial : String := textOfLines [
  "function factorial(n) \x7b",
  "    if (n <= 1) \x7b",
  "        return 1;",
  "    \x7d",
  "    return n * factorial(n - 1);",
  "\x7d",
  "",
  "// Example usage",
  "console.log(factorial(5)); // Output: 120"]

/-- The JavaScript template for a list of things to do. -/
def javaScriptTodo : String := textOfLines [
  "class TodoList \x7b",
  "    constructor() \x7b",
  "        this.todos = [];",
  "        this.nextId = 1;",
  "    \x7d",
  "",
  "    add(text) \x7b",
  "        this.todos.push(\x7b",
  "            id: this.nextId++,",
  "            text: text,",
  "            completed: false",
  "        \x7d);",
  "    \x7d",
  "",
  "    remove(id) \x7b",
  "        this.todos = this.todos.filter(todo => todo.id !== id);",
  "    \x7d",
  "",
  "    complete(id) \x7b",
  "        const todo = this.todos.find(todo => todo.id === id);",
  "        if (todo) \x7b",
  "            todo.completed = true;",
  "        \x7d",
  "    \x7d",
  "",
  "    getAll() \x7b",
  "        return this.todos;",
  "    \x7d",
  "\x7d"]

/-- The default template of Python. -/
def pythonDefault : String := textOfLines [
  "# Generated Python code based on your request",
  "from datetime import datetime",
  "",
  "",
  "def process_data(data):",
  "    \"\"\"Process a list of data items.\"\"\"",
  "    result = []",
  "    for item in data:",
  "        processed_item = \x7b",
  "            **item,",
  "            'processed': True,",
  "            'timestamp': str(datetime.now())",
  "        \x7d",
  "        result.append(processed_item)",
  "",
  "    return result",
  "",
  "# Example usage",
  "sample_data = [\x7b'name': 'Item 1'\x7d, \x7b'name': 'Item 2'\x7d]",
  "print(process_data(sample_data))"]

/-- The Python template that computes factorials. -/
def pythonFactorial : String := textOfLines [
  "def factorial(n):",
  "    \"\"\"Calculate the factorial of a number.\"\"\"",
  "    if n <= 1:",
  "        return 1",
  "    return n * factorial(n - 1)",
  "",
  "# Example usage",
  "print(factorial(5))  # Output: 120"]

/-- The Python template for a list of things to do. -/
def pythonTodo : String := textOfLines [
  "class TodoList:",
  "    def __init__(self):",
  "        self.todos = []",
  "        self.next_id = 1",
  "",
  "    def add(self, text):",
  "        \"\"\"Add a new todo item.\"\"\"",
  "        self.todos.append(\x7b",
  "            'id': self.next_id,",
  "            'text': text,",
  "            'completed': False",
  "        \x7d)",
  "        self.next_id += 1",
  "",
  "    def remove(self, todo_id):",
  "        \"\"\"Remove a todo item by ID.\"\"\"",
  "        self.todos = [todo for todo in self.todos if todo['id'] != todo_id]",
  "",
  "    def complete(self, todo_id):",
  "        \"\"\"Mark a todo item as completed.\"\"\"",
  "        for todo in self.todos:",
  "            if todo['id'] == todo_id:",
  "                todo['completed'] = True",
  "                break",
  "",
  "    def get_all(self):",
  "        \"\"\"Get all todo items.\"\"\"",
  "        return self.todos"]

/-- The default template of Java. -/
def javaDefault : String := textOfLines [
  "// Generated Java code based on your request",
  "import java.util.ArrayList;",
  "import java.util.List;",
  "",
  "public class DataProcessor \x7b",
  "    public static List<String> processData(List<String> data) \x7b",
  "        List<String> result = new ArrayList<>();",
  "        for (String item : data) \x7b",
  "            result.add(item.trim() + \" (processed)\");",
  "        \x7d",
  "        return result;",
  "    \x7d",
  "",
  "    public static void main(String[] args) \x7b",
  "        System.out.println(processData(List.of(\"Item 1\", \"Item 2\")));",
  "    \x7d",
  "\x7d"]

/-- The Java template that computes factorials. -/
def javaFactorial : String := textOfLines [
  "public class Factorial \x7b",
  "    public static long factorial(int n) \x7b",
  "        if (n <= 1) \x7b",
  "            return 1;",
  "        \x7d",
  "        return n * factorial(n - 1);",
  "    \x7d",
  "",
  "    public static void main(String[] args) \x7b",
  "        System.out.println(factorial(5)); // Output: 120",
  "    \x7d",
  "\x7d"]

/-- The Java template for a list of things to do. -/
def javaTodo : String := textOfLines [
  "import java.util.ArrayList;",
  "import java.util.List;",
  "",
  "public class TodoList \x7b",
  "    public static class Todo \x7b",
  "        final int id;",
  "        final String text;",
  "        boolean completed;",
  "",
  "        Todo(int id, String text) \x7b",
  "            this.id = id;",
  "            this.text = text;",
  "        \x7d",
  "    \x7d",
  "",
  "    private final List<Todo> todos = new ArrayList<>();",
  "    private int nextId = 1;",
  "",
  "    public void add(String text) \x7b",
  "        todos.add(new Todo(nextId++, text));",
  "    \x7d",
  "",
  "    public void remove(int id) \x7b",
  "        todos.removeIf(todo -> todo.id == id);",
  "    \x7d",
  "",
  "    public void complete(int id) \x7b",
  "        for (Todo todo : todos) \x7b",
  "            if (todo.id == id) \x7b",
  "                todo.completed = true;",
  "                break;",
  "            \x7d",
  "        \x7d",
  "    \x7d",
  "",
  "    public List<Todo> getAll() \x7b",
  "        return todos;",
  "    \x7d",
  "\x7d"]

/-- The default template of C++. -/
def cppDefault : String := textOfLines [
  "// Generated C++ code based on your request",
  "#include <iostream>",
  "#include <string>",
  "#include <vector>",
  "",
  "std::vector<std::string> processData(const std::vector<std::string>& data) \x7b",
  "    std::vector<std::string> result;",
  "    result.reserve(data.size());",
  "    for (const auto& item : data) \x7b",
  "        result.push_back(item + \" (processed)\");",
  "    \x7d",
  "    return result;",
  "\x7d",
  "",
  "int main() \x7b",
  "    for (const auto& item : processData(\x7b\"Item 1\", \"Item 2\"\x7d)) \x7b",
  "        std::cout << item << std::endl;",
  "    \x7d",
  "    return 0;",
  "\x7d"]

/-- The C++ template that computes factorials. -/
def cppFactorial : String := textOfLines [
  "#include <iostream>",
  "",
  "unsigned long long factorial(unsigned int n) \x7b",
  "    if (n <= 1) \x7b",
  "        return 1;",
  "    \x7d",
  "    return n * factorial(n - 1);",
  "\x7d",
  "",
  "int main() \x7b",
  "    std::cout << factorial(5) << std::endl; // Output: 120",
  "    return 0;",
  "\x7d"]

/-- The C++ template for a list of things to do. -/
def cppTodo : String := textOfLines [
  "#include <algorithm>",
  "#include <string>",
  "#include <vector>",
  "",
  "struct Todo \x7b",
  "    int id;",
  "    std::string text;",
  "    bool completed = false;",
  "\x7d;",
  "",
  "class TodoList \x7b",
  "public:",
  "    void add(const std::string& text) \x7b",
  "        todos_.push_back(\x7bnext_id_++, text\x7d);",
  "    \x7d",
  "",
  "    void remove(int id) \x7b",
  "        todos_.erase(std::remove_if(todos_.begin(), todos_.end(),",
  "                                    [id](const Todo& t) \x7b return t.id == id; \x7d),",
  "                     todos_.end());",
  "    \x7d",
  "",
  "    void complete(int id) \x7b",
  "        for (auto& todo : todos_) \x7b",
  "            if (todo.id == id) \x7b",
  "                todo.completed = true;",
  "                break;",
  "            \x7d",
  "        \x7d",
  "    \x7d",
  "",
  "    const std::vector<Todo>& getAll() const \x7b",
  "        return todos_;",
  "    \x7d",
  "",
  "private:",
  "    std::vector<Todo> todos_;",
  "    int next_id_ = 1;",
  "\x7d;"]

/-- The default template of C. -/
def cDefault : String := textOfLines [
  "/* Generated C code based on your request */",
  "#include <stdio.h>",
  "",
  "int process_data(const int *data, int *out, int len) \x7b",
  "    for (int i = 0; i < len; i++) \x7b",
  "        out[i] = data[i] * 2;",
  "    \x7d",
  "    return len;",
  "\x7d",
  "",
  "int main(void) \x7b",
  "    int data[] = \x7b1, 2, 3\x7d;",
  "    int out[3];",
  "    int n = process_data(data, out, 3);",
  "    for (int i = 0; i < n; i++) \x7b",
  "        printf(\"%d\\n\", out[i]);",
  "    \x7d",
  "    return 0;",
  "\x7d"]

/-- The C template that computes factorials. -/
def cFactorial : String := textOfLines [
  "#include <stdio.h>",
  "",
  "unsigned long long factorial(unsigned int n) \x7b",
  "    if (n <= 1) \x7b",
  "        return 1;",
  "    \x7d",
  "    return n * factorial(n - 1);",
  "\x7d",
  "",
  "int main(void) \x7b",
  "    printf(\"%llu\\n\", factorial(5)); /* Output: 120 */",
  "    return 0;",
  "\x7d"]

/-- The C template for a list of things to do. -/
def cTodo : String := textOfLines [
  "#include <stdbool.h>",
  "#include <string.h>",
  "",
  "#define MAX_TODOS 64",
  "#define MAX_TEXT 128",
  "",
  "typedef struct \x7b",
  "    int id;",
  "    char text[MAX_TEXT];",
  "    bool completed;",
  "\x7d Todo;",
  "",
  "typedef struct \x7b",
  "    Todo items[MAX_TODOS];",
  "    int count;",
  "    int next_id;",
  "\x7d TodoList;",
  "",
  "void todo_init(TodoList *list) \x7b",
  "    list->count = 0;",
  "    list->next_id = 1;",
  "\x7d",
  "",
  "int todo_add(TodoList *list, const char *text) \x7b",
  "    if (list->count >= MAX_TODOS) \x7b",
  "        return -1;",
  "    \x7d",
  "    Todo *todo = &list->items[list->count++];",
  "    todo->id = list->next_id++;",
  "    strncpy(todo->text, text, MAX_TEXT - 1);",
  "    todo->text[MAX_TEXT - 1] = '\\0';",
  "    todo->completed = false;",
  "    return todo->id;",
  "\x7d",
  "",
  "void todo_remove(TodoList *list, int id) \x7b",
  "    for (int i = 0; i < list->count; i++) \x7b",
  "        if (list->items[i].id == id) \x7b",
  "            memmove(&list->items[i], &list->items[i + 1],",
  "                    (size_t)(list->count - i - 1) * sizeof(Todo));",
  "            list->count--;",
  "            return;",
  "        \x7d",
  "    \x7d",
  "\x7d",
  "",
  "void todo_complete(TodoList *list, int id) \x7b",
  "    for (int i = 0; i < list->count; i++) \x7b",
  "        if (list->items[i].id == id) \x7b",
  "            list->items[i].completed = true;",
  "            return;",
  "        \x7d",
  "    \x7d",
  "\x7d"]

end SnippetLint.Bundled

namespace SnippetLint

open Bundled in
/-- The bundled templates. -/
def TemplateStore.bundled : TemplateStore :=
  let three (default factorial todo : String) : LanguageTemplates :=
    ((LanguageTemplates.ofDefault default).register "factorial" factorial).register "todo" todo
  TemplateStore.empty
    |>.insert .javaScript (three javaScriptDefault javaScriptFactorial javaScriptTodo)
    |>.insert .python (three pythonDefault pythonFactorial pythonTodo)
    |>.insert .java (three javaDefault javaFactorial javaTodo)
    |>.insert .cpp (three cppDefault cppFactorial cppTodo)
    |>.insert .c (three cDefault cFactorial cTodo)

end SnippetLint
